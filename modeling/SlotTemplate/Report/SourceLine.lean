import SlotTemplate.Text.Blank

/-!
# Lines of a source

A source is cut into lines for display. Here positions count characters.

* `flatten_splitLines`: the lines of a source put together are the source.
-/

namespace SlotTemplate

/-- A line of a source: how many characters precede it, and its own characters with those that end
it. -/
structure SourceLine where
  start : Nat
  chars : List Char

namespace SourceLine

/-- Whether a character ends a line. -/
def endsLine (c : Char) : Bool :=
  (0x0A ≤ c.toNat && c.toNat ≤ 0x0D) || c.toNat == 0x85 || c.toNat == 0x2028 || c.toNat == 0x2029

/-- The lines of a text that is not empty. A carriage return and the line feed behind it end one
line together. -/
def splitLines : List Char → List (List Char)
  | [] => []
  | c :: cs =>
    let more := splitLines cs
    if endsLine c && !(c == '\r' && cs.head? == some '\n') then [c] :: more
    else match more with
      | [] => [[c]]
      | l :: ls => (c :: l) :: ls

theorem flatten_splitLines (cs : List Char) : (splitLines cs).flatten = cs := by
  induction cs with
  | nil => rfl
  | cons c cs ih =>
    rw [splitLines]
    split
    · simp [ih]
    · split <;> simp_all

/-- Lines with their positions, the first one at `start`. -/
def place (start : Nat) : List (List Char) → List SourceLine
  | [] => []
  | l :: ls => ⟨start, l⟩ :: place (start + l.length) ls

/-- The lines of a source; the empty one has an empty line. -/
def ofSource (cs : List Char) : List SourceLine :=
  if cs.isEmpty then [⟨0, []⟩] else place 0 (splitLines cs)

def stop (l : SourceLine) : Nat := l.start + l.chars.length

/-- Whether a line has the character at a position. -/
def covers (l : SourceLine) (i : Nat) : Bool := decide (l.start ≤ i) && decide (i < l.stop)

/-- What is shown of a line. -/
def shown (l : SourceLine) : List Char := Text.trimEnd l.chars

/-- Index and column of a position of a source, both counted from zero. The position behind the last
character belongs to the last line. -/
def locate (source : List Char) (i : Nat) : Option (Nat × Nat) :=
  if i ≤ source.length then
    let before := (ofSource source).takeWhile fun l => decide (l.start ≤ i)
    before.getLast?.map fun l => (before.length - 1, i - l.start)
  else none

end SourceLine

end SlotTemplate
