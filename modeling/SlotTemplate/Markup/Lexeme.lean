import SlotTemplate.Text.Span
import SlotTemplate.Text.Blank

/-!
# Lexemes of a template source

A source is a sequence of plain text, variables in double braces and tags.
-/

namespace SlotTemplate

/-- A tag as it stands in a source. -/
structure Tag where
  /-- What stands between the delimiters, without the blanks around it. -/
  contents : String
  /-- Where the contents start. -/
  offset : Nat
  /-- The whole tag, delimiters included. -/
  span : Span
  /-- The line of the opening delimiter; lines count from one. -/
  line : Nat
deriving DecidableEq, Inhabited

namespace Tag

/-- The words of the contents, the name first. -/
def words (t : Tag) : List String := (Text.words t.contents.toList).map String.ofList

/-- The first word of the contents; empty if there is none. -/
def name (t : Tag) : String := t.words.headD ""

/-- What follows the name. -/
def args (t : Tag) : String :=
  String.ofList (Text.dropBytes (Text.byteSize t.name.toList) t.contents.toList)

/-- Whether the arguments start between two characters. That is so where the contents start with the
name; blanks in front of it shift the cut, which may then fall inside a character. -/
def cutsCleanly (t : Tag) : Bool :=
  Text.isBoundary (Text.byteSize t.name.toList) t.contents.toList

/-- Where the text after the name starts. -/
def argsOffset (t : Tag) : Nat := t.offset + Text.byteSize t.name.toList

end Tag

namespace Markup

inductive Token where
  | text (text : String)
  /-- The trimmed contents of a variable and where they start. -/
  | variable (contents : String) (offset : Nat)
  | block (tag : Tag)
deriving DecidableEq, Inhabited

/-- A token and its place in the source. -/
structure Lexeme where
  token : Token
  span : Span
  line : Nat
deriving DecidableEq, Inhabited

end Markup

end SlotTemplate
