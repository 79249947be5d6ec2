import SlotTemplate.Error
import SlotTemplate.Report.SourceLine
import SlotTemplate.Text.Width

/-!
# Reports

A compile error shown in its source, in colours for a terminal: a message, the place, the lines that
the error spans, and a label that an arrow ties to them. The positions of the span are taken to
count characters. A span that the source does not reach is not shown.
-/

namespace SlotTemplate

/-- What is said of a place in a source. -/
structure Report where
  message : String
  file : String
  source : List Char
  span : Span
  label : String

namespace Report

inductive Color where
  | red
  /-- One of the terminal's 256 colours. -/
  | indexed (n : Nat)

namespace Color

def code : Color → String
  | .red => "31"
  | .indexed n => "38;5;" ++ toString n

/-- The margin next to lines that are shown. -/
def margin : Color := .indexed 246

/-- The margin elsewhere. -/
def dimMargin : Color := .indexed 240

/-- Text outside the span. -/
def plain : Color := .indexed 249

def paint (color : Color) (s : String) : String := "\x1b[" ++ color.code ++ "m" ++ s ++ "\x1b[0m"

/-- Paints each character by itself. -/
def paintEach (color : Color) (cs : List Char) : String :=
  String.join (cs.map fun c => color.paint (String.singleton c))

end Color

def spaces (n : Nat) : String := String.ofList (List.replicate n ' ')

/-- The columns of a character that `column` characters precede. Tabs lead to the next multiple of
four. -/
def cells (column : Nat) (c : Char) : Nat :=
  if c = '\t' then 4 - column % 4
  else if Text.isBlank c then 1
  else Text.width c

/-- The columns of the first `count` characters of a line; what is missing takes one each. -/
def cellsOf : Nat → Nat → List Char → List Nat
  | 0, _, _ => []
  | count + 1, column, [] => 1 :: cellsOf count (column + 1) []
  | count + 1, column, c :: cs => cells column c :: cellsOf count (column + 1) cs

/-- What stands below a character: in its first column, and in its other ones. -/
inductive Mark where
  | nothing
  | drawn (head tail : Char)

def Mark.draw (width : Nat) : Mark → String
  | .nothing => spaces width
  | .drawn head tail => Color.red.paintEach ((head :: List.replicate (width - 1) tail).take width)

/-- A row of marks below a line. -/
def markRow (line : SourceLine) (count : Nat) (mark : Nat → Mark) : String :=
  String.join (((cellsOf count 0 line.shown).zip (List.range count)).map fun (width, column) =>
    (mark column).draw width)

/-- Whether a span covers a position. -/
def covers (s : Span) (i : Nat) : Bool := decide (s.start ≤ i) && decide (i < s.stop)

/-- A line with the span in red. -/
def sourceRow (line : SourceLine) (span : Span) : String :=
  String.join (line.shown.zipIdx.map fun (c, column) =>
    let color := if covers span (line.start + column) then Color.red else Color.plain
    if Text.isBlank c then color.paintEach (List.replicate (cells column c) ' ')
    else color.paint (String.singleton c))

/-- The margin of a line that is shown; numbers have the width `w`. -/
def numberMargin (w number : Nat) : String :=
  let n := toString number
  " " ++ Color.margin.paint (spaces (w - n.length) ++ n ++ " │") ++ " "

/-- The margin of a row without a line. -/
def dimMargin (w : Nat) (bar : String) : String :=
  " " ++ Color.dimMargin.paint (spaces (w + 1) ++ bar) ++ " "

/-- A span on a single line, underlined, with an arrow from its middle. -/
def singleRows (r : Report) (w number : Nat) (line : SourceLine) : List String :=
  if line.stop < r.span.stop then [dimMargin w "│"]
  else
    let anchor := (r.span.start + r.span.stop) / 2 - line.start
    let count := r.span.stop - line.start + 2
    let underline (column : Nat) : Mark :=
      match covers r.span (line.start + column), column == anchor with
      | true, true => .drawn '┬' '─'
      | true, false => .drawn '─' '─'
      | false, true => .drawn '│' ' '
      | false, false => .nothing
    let arrow (column : Nat) : Mark :=
      if column < anchor then .nothing
      else if column = anchor then .drawn '╰' '─'
      else .drawn '─' '─'
    [numberMargin w number ++ sourceRow line r.span,
      dimMargin w "│" ++ markRow line count underline,
      dimMargin w "│" ++ markRow line count arrow ++ " " ++ r.label]

/-- The last character of a span, or its start if it has none. -/
def lastPosition (s : Span) : Nat := max s.start (s.stop - 1)

/-- A span on several lines: the first and the last of them with a bracket, and a gap for those
between. A span that ends behind the source has no last line. -/
def multipleRows (r : Report) (w firstNumber : Nat) (first last : SourceLine) (between : Nat) :
    List String :=
  let bracketed (number : Nat) (line : SourceLine) (corner : Char) : String :=
    numberMargin w number ++ Color.red.paintEach [corner, '─', '▶', ' '] ++ sourceRow line r.span
  let closed := last.covers (lastPosition r.span)
  let count := last.chars.length + 2
  [bracketed firstNumber first '╭'] ++
    (if 0 < between ∨ !closed then
      [dimMargin w "┆" ++ Color.red.paint "┆" ++ "   "]
    else []) ++
    if closed then
      [bracketed (firstNumber + between + 1) last '├',
        dimMargin w "│" ++ Color.red.paint "│" ++ "   " ++ markRow last count fun _ => .nothing,
        dimMargin w "│" ++ Color.red.paintEach ['╰', '─', '─', '─'] ++
          (markRow last count fun _ => .drawn '─' '─') ++ " " ++ r.label]
    else []

/-- Line and column of the start of the span, counted from one, if the source reaches the span. -/
def position? (r : Report) : Option (Nat × Nat) :=
  if lastPosition r.span ≤ r.source.length then
    (SourceLine.locate r.source r.span.start).map fun (line, column) => (line + 1, column + 1)
  else none

/-- The rows that show the place. -/
def placeRows (r : Report) : List String :=
  let lines := SourceLine.ofSource r.source
  match r.position?, SourceLine.locate r.source (lastPosition r.span) with
  | some (line, column), some (last, _) =>
    let w := (toString (last + 1)).length
    let place := r.file ++ ":" ++ toString line ++ ":" ++ toString column
    let body := match lines[line - 1]?, lines[last]? with
      | some first, some final =>
        if line = last + 1 then r.singleRows w line first
        else r.multipleRows w line first final (last - line)
      | _, _ => []
    [spaces (w + 2) ++ Color.margin.paintEach ['╭', '─', '['] ++ place ++ Color.margin.paint "]",
      spaces (w + 2) ++ Color.margin.paint "│"] ++ body ++
      [Color.margin.paint (String.ofList (List.replicate (w + 2) '─' ++ ['╯']))]
  | _, _ => []

/-- The whole report, each row with a line feed. -/
def text (r : Report) : String :=
  String.join (((Color.red.paint "Error:" ++ " " ++ r.message) :: r.placeRows).map (· ++ "\n"))

end Report

namespace CompileError

/-- What is said at the place of an error. -/
def label : CompileError → String
  | .unknownTag .. => "did you forget to register or load this tag?"
  | .unclosedTag _ _ _ expected =>
    "this tag is never closed; expected " ++ String.intercalate " or " expected
  | .tag e =>
    if e.expected.isEmpty then e.text
    else e.text ++ "\nExpected: " ++ String.intercalate ", " e.expected

/-- The report of an error in a source that stands in a file. -/
def report (e : CompileError) (source file : String) : Report :=
  ⟨e.message, file, source.toList, e.span, e.label⟩

end CompileError

end SlotTemplate
