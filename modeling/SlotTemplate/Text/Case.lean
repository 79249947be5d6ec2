import SlotTemplate.Text.CaseMapping
import SlotTemplate.Text.Cased
import SlotTemplate.Text.Alphanumeric

/-!
# Texts in upper, lower and title case
-/

namespace SlotTemplate.Text

def upper (cs : List Char) : List Char := cs.flatMap upperChar

/-- Whether a cased character comes first once the case-ignorable ones are skipped. -/
def startsCased (cs : List Char) : Bool :=
  match cs.dropWhile isCaseIgnorable with
  | [] => false
  | c :: _ => isCased c

/-- A text in lower case; `before` is what precedes it, in reverse. A capital sigma that ends a word
becomes a final sigma. -/
def lowerAfter (before : List Char) : List Char → List Char
  | [] => []
  | c :: cs =>
    let image :=
      if c = 'Σ' then if startsCased before && !startsCased cs then ['ς'] else ['σ']
      else lowerChar c
    image ++ lowerAfter (c :: before) cs

def lower (cs : List Char) : List Char := lowerAfter [] cs

/-- A text whose words start in upper case; a word starts after each character that is neither
letter nor number. -/
def titleFrom (wordStart : Bool) : List Char → List Char
  | [] => []
  | c :: cs => (if wordStart then upperChar c else lowerChar c) ++ titleFrom (!isAlphanumeric c) cs

def title (cs : List Char) : List Char := titleFrom true cs

end SlotTemplate.Text
