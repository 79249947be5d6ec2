/-!
# Names in snake case

An underscore goes before a capital that follows a small letter and before one that is followed by
something other than a capital, so that runs of capitals stay together.
-/

namespace SlotTemplate.Text

/-- Whether a capital between these neighbours starts a word. -/
def startsWord (before after : Option Char) : Bool :=
  before.any Char.isLower || after.any (!·.isUpper)

/-- The text with its words separated and in small letters; `before` is the character that precedes
it. -/
def separateFrom (before : Option Char) : List Char → List Char
  | [] => []
  | c :: cs =>
    let rest := separateFrom (some c) cs
    if c.isUpper && startsWord before cs.head? then '_' :: c.toLower :: rest else c.toLower :: rest

/-- A text without the underscores at both ends. -/
def trimUnderscores (cs : List Char) : List Char :=
  ((cs.dropWhile (· == '_')).reverse.dropWhile (· == '_')).reverse

/-- The snake-case form of a name; only ASCII letters have case here. -/
def snake (s : String) : String := String.ofList (trimUnderscores (separateFrom none s.toList))

end SlotTemplate.Text
