import SlotTemplate.Markup.Lexeme

/-!
# From a source to its lexemes

The source is first cut into pieces, each a run of plain text or a complete delimited part, and the
pieces then get their places.

* `splitClose_eq_some`: a delimited part is its body, its closing pair and the rest;
* `scan_source`: the pieces, written one after another, are the source.
-/

namespace SlotTemplate.Markup

/-- The kinds of delimited part. -/
inductive Delimiter where
  | variable
  | block
  | comment
deriving DecidableEq

namespace Delimiter

/-- The character after the opening brace. -/
def opening : Delimiter → Char
  | .variable => '{'
  | .block => '%'
  | .comment => '#'

/-- The character before the closing brace. -/
def guard : Delimiter → Char
  | .variable => '}'
  | .block => '%'
  | .comment => '#'

def ofOpening? : Char → Option Delimiter
  | '{' => some .variable
  | '%' => some .block
  | '#' => some .comment
  | _ => none

theorem opening_of_ofOpening? {c : Char} {d : Delimiter} (h : ofOpening? c = some d) :
    d.opening = c := by
  unfold ofOpening? at h
  split at h <;> simp_all [opening] <;> subst h <;> rfl

end Delimiter

/-- Splits off a body that ends with the guard and a brace. A guard that is not followed by a brace
takes the character after it along, so that two guards before a brace do not close. -/
def splitClose (g : Char) : List Char → Option (List Char × List Char)
  | [] => none
  | [_] => none
  | c :: d :: rest =>
    if c = g then
      if d = '}' then some ([], rest)
      else (splitClose g rest).map fun (body, rest) => (c :: d :: body, rest)
    else (splitClose g (d :: rest)).map fun (body, rest) => (c :: body, rest)

theorem splitClose_eq_some {g : Char} {cs body rest : List Char}
    (h : splitClose g cs = some (body, rest)) : cs = body ++ g :: '}' :: rest := by
  fun_induction splitClose g cs generalizing body with
  | case1 => simp at h
  | case2 => simp at h
  | case3 => simp_all
  | case4 d r _ ih =>
    obtain ⟨⟨b, r'⟩, hb, he⟩ := Option.map_eq_some_iff.1 h
    simp only [Prod.mk.injEq] at he
    obtain ⟨rfl, rfl⟩ := he
    simp [ih hb]
  | case5 c d r _ ih =>
    obtain ⟨⟨b, r'⟩, hb, he⟩ := Option.map_eq_some_iff.1 h
    simp only [Prod.mk.injEq] at he
    obtain ⟨rfl, rfl⟩ := he
    simp [ih hb]

/-- A piece of a source. -/
inductive Piece where
  | text (cs : List Char)
  | markup (kind : Delimiter) (body : List Char)
deriving DecidableEq

/-- A piece as it stands in the source. -/
def Piece.source : Piece → List Char
  | .text cs => cs
  | .markup d body => '{' :: d.opening :: (body ++ [d.guard, '}'])

/-- Puts a character in front of a source that is cut into pieces. -/
def consText (c : Char) : List Piece → List Piece
  | .text cs :: ps => .text (c :: cs) :: ps
  | ps => .text [c] :: ps

/-- Cuts a source into pieces. An opening pair whose part never closes makes all that follows plain
text. -/
def scan : List Char → List Piece
  | [] => []
  | '{' :: c :: rest =>
    match Delimiter.ofOpening? c with
    | some d =>
      match _h : splitClose d.guard rest with
      | some (body, rest') => .markup d body :: scan rest'
      | none => [.text ('{' :: c :: rest)]
    | none => consText '{' (scan (c :: rest))
  | c :: rest => consText c (scan rest)
termination_by cs => cs.length
decreasing_by
  · have := congrArg List.length (splitClose_eq_some _h)
    simp at this ⊢
    omega
  · simp
  · simp

theorem source_consText (c : Char) (ps : List Piece) :
    (consText c ps).flatMap Piece.source = c :: ps.flatMap Piece.source := by
  unfold consText
  split <;> simp [Piece.source]

theorem scan_source (cs : List Char) : (scan cs).flatMap Piece.source = cs := by
  fun_induction scan cs with
  | case1 => rfl
  | case2 c rest d hd body rest' h ih =>
    rw [List.flatMap_cons, ih, splitClose_eq_some h, Piece.source,
      Delimiter.opening_of_ofOpening? hd]
    simp
  | case3 => simp [Piece.source]
  | case4 c rest hd ih => rw [source_consText, ih]
  | case5 c rest _ ih => rw [source_consText, ih]

/-- The lexeme of a variable or tag that starts at an offset. -/
def delimited (kind : Delimiter) (body : List Char) (pos line : Nat) : Option Lexeme :=
  let contents := String.ofList (Text.trim body)
  let offset := pos + 2 + Text.byteSize (body.takeWhile Text.isBlank)
  let span : Span := ⟨pos, pos + 4 + Text.byteSize body⟩
  match kind with
  | .variable => some ⟨.variable contents offset, span, line⟩
  | .block => some ⟨.block ⟨contents, offset, span, line⟩, span, line⟩
  | .comment => none

/-- The lexeme of a piece that starts at an offset; a comment has none. -/
def Piece.lexeme? (p : Piece) (pos line : Nat) : Option Lexeme :=
  match p with
  | .text cs => some ⟨.text (String.ofList cs), ⟨pos, pos + Text.byteSize cs⟩, line⟩
  | .markup kind body => delimited kind body pos line

/-- Gives the pieces their places, from an offset and a line on. -/
def place (pos line : Nat) : List Piece → List Lexeme
  | [] => []
  | p :: ps =>
    let rest := place (pos + Text.byteSize p.source) (line + Text.newlines p.source) ps
    match p.lexeme? pos line with
    | some lexeme => lexeme :: rest
    | none => rest

/-- The lexemes of a source, in order. -/
def tokenize (source : String) : List Lexeme := place 0 1 (scan source.toList)

end SlotTemplate.Markup
