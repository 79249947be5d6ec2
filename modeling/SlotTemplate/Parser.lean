import SlotTemplate.Slot
import SlotTemplate.Library
import SlotTemplate.Expr.Grammar
import SlotTemplate.Markup.Lexer

/-!
# From lexemes to nodes

A parser walks over the lexemes of one source. Plain text and variables become nodes at once; a tag
is compiled by what its name is bound to, which may read on up to the tag that ends it. A step that
fails leaves the parser where it stopped, so that another step can follow.
-/

namespace SlotTemplate

structure Parser where
  /-- All lexemes of the source. -/
  lexemes : List Markup.Lexeme
  /-- The lexemes that are still to be read. -/
  pending : List Markup.Lexeme
  tags : Dict Binding
  libraries : Dict Library
  /-- The tags that are being compiled, the innermost first. -/
  opened : List Tag

namespace Parser

def start (source : String) (builtins : Library) (libraries : Dict Library) : Parser :=
  let lexemes := Markup.tokenize source
  ⟨lexemes, lexemes, builtins.tags, libraries, []⟩

/-- Whether a tag is bound at this point. -/
def hasTag (p : Parser) (name : String) : Bool := p.tags.contains name

/-- The number of lexemes that are read. -/
def position (p : Parser) : Nat := p.lexemes.length - p.pending.length

/-- Moves on, so that a part of the lexemes is pending. -/
def advance (p : Parser) (pending : List Markup.Lexeme) : Parser := { p with pending }

/-- Starts to compile a tag. -/
def enter (p : Parser) (tag : Tag) : Parser := { p with opened := tag :: p.opened }

/-- Is done with the innermost tag. -/
def leave (p : Parser) : Parser := { p with opened := p.opened.tail }

/-- The tag that ended the last block, if it comes next, and the parser behind it. -/
def consumeEnd (p : Parser) : Option Tag × Parser :=
  match p.pending with
  | ⟨.block tag, _, _⟩ :: rest => (some tag, p.advance rest)
  | _ => (none, p)

theorem consumeEnd_pending (p : Parser) : p.consumeEnd.2.pending.length ≤ p.pending.length := by
  unfold consumeEnd
  split
  · rename_i h
    simp [advance, h]
  · exact Nat.le_refl _

/-- Binds the tags of a library; `blamed` is the tag that asks for it. -/
def loadLibrary (p : Parser) (name : String) (blamed : Tag) : Except TagError Unit × Parser :=
  match p.libraries.get? name with
  | none => (.error ⟨blamed.name, blamed.span, blamed.line, .unknownLibrary name⟩, p)
  | some library => (.ok (), { p with tags := p.tags.insertAll library.tags.entries })

theorem loadLibrary_pending (p : Parser) (name : String) (blamed : Tag) :
    (p.loadLibrary name blamed).2.pending = p.pending := by
  unfold loadLibrary
  split <;> rfl

/-- Binds the tags of several libraries, up to the first unknown one. -/
def loadLibraries (blamed : Tag) : List String → Parser → Except TagError Unit × Parser
  | [], p => (.ok (), p)
  | name :: names, p =>
    match p.loadLibrary name blamed with
    | (.error e, p) => (.error e, p)
    | (.ok (), p) => loadLibraries blamed names p

theorem loadLibraries_pending (blamed : Tag) (names : List String) (p : Parser) :
    (loadLibraries blamed names p).2.pending = p.pending := by
  induction names generalizing p with
  | nil => rfl
  | cons name names ih =>
    have h := p.loadLibrary_pending name blamed
    unfold loadLibraries
    split
    · rename_i he
      rw [he] at h
      exact h
    · rename_i he
      rw [he] at h
      rw [ih, h]

/-- The error of a source that ends where one of `ends` is awaited. It blames the innermost open
tag, or the end of the source if no tag is open. -/
def unclosed (p : Parser) (ends : List String) : CompileError :=
  match p.opened with
  | tag :: _ => .unclosedTag tag.name tag.span tag.line ends
  | [] =>
    let last := p.lexemes.getLast?
    .unclosedTag "" (Span.point (last.elim 0 (·.span.stop))) (last.elim 1 (·.line)) ends

/-- A result, and a parser that is not further back than `p`. -/
abbrev Outcome (p : Parser) (α : Type) :=
  Except CompileError α × { q : Parser // q.pending.length ≤ p.pending.length }

namespace Outcome

variable {p q : Parser} {α β : Type}

/-- A result for which nothing is read. -/
def here (r : Except CompileError α) : Outcome p α := (r, ⟨p, Nat.le_refl _⟩)

def map (f : α → β) (o : Outcome p α) : Outcome p β := (o.1.map f, o.2)

/-- The same outcome, seen from a parser that is not further on. -/
def since (h : q.pending.length ≤ p.pending.length) (o : Outcome q α) : Outcome p α :=
  (o.1, ⟨o.2.1, Nat.le_trans o.2.2 h⟩)

/-- Goes on from where a successful step ended. -/
def andThen (o : Outcome p α)
    (f : α → (q : Parser) → q.pending.length ≤ p.pending.length → Outcome q β) : Outcome p β :=
  match o with
  | (.error e, q) => (.error e, q)
  | (.ok a, q) => (f a q.1 q.2).since q.2

/-- Is done with the innermost tag, whether its compilation succeeded or not. -/
def leave (o : Outcome p α) : Outcome p α := (o.1, ⟨o.2.1.leave, o.2.2⟩)

/-- Passes over the tag that ended a block. -/
def skipEnd (o : Outcome p α) : Outcome p α :=
  o.andThen fun a q _ => (.ok a, ⟨q.consumeEnd.2, q.consumeEnd_pending⟩)

end Outcome

theorem pending_advance_lt {p : Parser} {lexeme : Markup.Lexeme} {rest : List Markup.Lexeme}
    (h : p.pending = lexeme :: rest) : (p.advance rest).pending.length < p.pending.length := by
  simp [h, advance]

/-- The arguments of an invocation; no name may come twice. -/
def checkDistinct (tag : Tag) (seen : List String) :
    List KeywordArgument → Except TagError (List Argument)
  | [] => .ok []
  | a :: as =>
    if seen.contains a.name then .error ⟨tag.name, a.nameSpan, tag.line, .repeatedArgument a.name⟩
    else
      (checkDistinct tag (a.name :: seen) as).map
        (⟨a.name, a.value, ⟨a.nameSpan.start, a.value.span.stop⟩⟩ :: ·)

end Parser

/-- The arguments of the invocation that a tag writes. -/
def Tag.invocationArguments (t : Tag) : Except TagError (List Argument) := do
  let arguments ← t.keywordArguments
  Parser.checkDistinct t [] arguments

namespace Parser

/-- Makes the libraries that a tag names available. -/
def load (p : Parser) (tag : Tag) : Outcome p Node :=
  match tag.words.tail with
  | [] => .here (.error (.tag ⟨tag.name, tag.span, tag.line, .noLibraryNamed⟩))
  | names =>
    ((loadLibraries tag names p).1.mapError .tag |>.map fun _ => .empty,
      ⟨(loadLibraries tag names p).2, Nat.le_of_eq (by rw [loadLibraries_pending])⟩)

/-- Reads nodes up to an awaited tag, from a parser that is not further back than `p`. -/
abbrev Reader (p : Parser) :=
  (q : Parser) → q.pending.length ≤ p.pending.length → List String → Outcome q (List Node)

/-- Reads a block that ends with the tag `last`, in two parts if the tag `middle` divides it. -/
def branches (p : Parser) (read : Reader p) (middle last : String) :
    Outcome p (List Node × List Node) :=
  (read p (Nat.le_refl _) [middle, last]).andThen fun first q h =>
    (if q.consumeEnd.1.any (·.name == middle) then
      (read q.consumeEnd.2 (Nat.le_trans q.consumeEnd_pending h) [last]).skipEnd.map (first, ·)
    else .here (.ok (first, []))).since q.consumeEnd_pending

/-- Compiles a tag whose lexeme is read. -/
def compile (p : Parser) (read : Reader p) (binding : Binding) (tag : Tag) : Outcome p Node :=
  match binding with
  | .conditional =>
    match tag.condition with
    | .error e => .here (.error (.tag e))
    | .ok c => (p.branches read "else" "endif").map fun (thenBranch, elseBranch) =>
        .conditional c.negated c.expr thenBranch elseBranch
  | .loop =>
    match tag.loopHeader with
    | .error e => .here (.error (.tag e))
    | .ok header => (p.branches read "empty" "endfor").map fun (body, empty) =>
        .loop header.variableName header.iterable body empty
  | .load => p.load tag
  | .slot =>
    match tag.slotName with
    | .error e => .here (.error (.tag e))
    | .ok name =>
      ((read p (Nat.le_refl _) ["/slot"]).map (.marker name · tag.span tag.line)).skipEnd
  | .slotOutput => .here ((tag.slotName.map .slotOutput).mapError .tag)
  | .inline component =>
    .here ((tag.invocationArguments.map (.invocation component tag.name · [] tag.span)).mapError
      .tag)
  | .block component =>
    match tag.invocationArguments with
    | .error e => .here (.error (.tag e))
    | .ok args =>
      (read p (Nat.le_refl _) [component.closeTag]).skipEnd.andThen fun body _ _ =>
        .here (((partitionSlots tag body).map
          (.invocation component tag.name args · tag.span)).mapError .tag)
  | .plain output => .here (.ok (output.elim .empty .text))

/-- Reads nodes up to one of the tags `ends`, which stays pending, or up to the end of the source if
no tag is awaited. -/
def parseUntil (p : Parser) (ends : List String) : Outcome p (List Node) :=
  match _h : p.pending with
  | [] => .here (if ends.isEmpty then .ok [] else .error (p.unclosed ends))
  | lexeme :: rest =>
    have forward := pending_advance_lt _h
    match lexeme.token with
    | .text s =>
      ((parseUntil (p.advance rest) ends).map (.text s :: ·)).since (Nat.le_of_lt forward)
    | .variable contents offset =>
      match Expr.ofVariable contents offset lexeme.line with
      | .error e => .here (.error (.tag e))
      | .ok expr =>
        ((parseUntil (p.advance rest) ends).map (.variable expr :: ·)).since (Nat.le_of_lt forward)
    | .block tag =>
      if ends.contains tag.name then .here (.ok [])
      else match p.tags.get? tag.name with
        | none =>
          (Outcome.here (.error (.unknownTag tag.name tag.span tag.line ends))).since
            (Nat.le_of_lt forward)
        | some binding =>
          ((((p.advance rest).enter tag).compile (fun q _ ends => parseUntil q ends) binding
            tag).leave.andThen fun node q _ =>
              (parseUntil q ends).map (node :: ·)).since (Nat.le_of_lt forward)
termination_by p.pending.length
decreasing_by
  · exact forward
  · exact forward
  · rename_i hq; exact Nat.lt_of_le_of_lt hq forward
  · rename_i hq; exact Nat.lt_of_le_of_lt hq forward

/-- Reads to the end of the source. -/
def parse (p : Parser) : Outcome p (List Node) := p.parseUntil []

end Parser

/-- Compiles a source with the tags that are there from the start and the libraries that it may
load. -/
def compileSource (builtins : Library) (libraries : Dict Library) (source : String) :
    Except CompileError (List Node) :=
  (Parser.start source builtins libraries).parse.1

end SlotTemplate
