import SlotTemplate.Json.Number

/-!
# Reading JSON texts

A text is cut into tokens, from which the value is read. A text with more than 127 nested arrays
and objects is refused.
-/

namespace SlotTemplate.Json

inductive Token where
  | openArray
  | closeArray
  | openObject
  | closeObject
  | comma
  | colon
  | literal (j : Json)
  | string (text : String)

/-- The bracket, brace, comma or colon that a character stands for. -/
def Token.ofMark? : Char → Option Token
  | '[' => some .openArray
  | ']' => some .closeArray
  | '{' => some .openObject
  | '}' => some .closeObject
  | ',' => some .comma
  | ':' => some .colon
  | _ => none

namespace Lexer

def isSpace (c : Char) : Bool := c == ' ' || c == '\n' || c == '\t' || c == '\r'

def hexDigit? (c : Char) : Option Nat :=
  if c.isDigit then some (c.toNat - '0'.toNat)
  else if 'a' ≤ c ∧ c ≤ 'f' then some (c.toNat - 'a'.toNat + 10)
  else if 'A' ≤ c ∧ c ≤ 'F' then some (c.toNat - 'A'.toNat + 10)
  else none

/-- Four hexadecimal digits. -/
def hex4? (a b c d : Char) : Option Nat := do
  let a ← hexDigit? a
  let b ← hexDigit? b
  let c ← hexDigit? c
  let d ← hexDigit? d
  return ((a * 16 + b) * 16 + c) * 16 + d

def simpleEscape? : Char → Option Char
  | '"' => some '"'
  | '\\' => some '\\'
  | '/' => some '/'
  | 'b' => some '\x08'
  | 'f' => some '\x0c'
  | 'n' => some '\n'
  | 'r' => some '\r'
  | 't' => some '\t'
  | _ => none

/-- The character of two surrogate code units. -/
def pair? (high low : Nat) : Option Char :=
  if 0xDC00 ≤ low ∧ low ≤ 0xDFFF then
    some (Char.ofNat (0x10000 + (high - 0xD800) * 0x400 + (low - 0xDC00)))
  else none

/-- The text up to the closing quote and what follows it. Surrogates must come in pairs, and
control characters must be escaped. -/
def string? : List Char → Option (List Char × List Char)
  | '"' :: rest => some ([], rest)
  | '\\' :: 'u' :: a :: b :: c :: d :: rest =>
    match hex4? a b c d with
    | none => none
    | some n =>
      if 0xD800 ≤ n ∧ n ≤ 0xDBFF then
        match rest with
        | '\\' :: 'u' :: e :: f :: g :: h :: rest =>
          match (hex4? e f g h).bind (pair? n), string? rest with
          | some ch, some (text, rest) => some (ch :: text, rest)
          | _, _ => none
        | _ => none
      else if 0xDC00 ≤ n ∧ n ≤ 0xDFFF then none
      else (string? rest).map fun (text, rest) => (Char.ofNat n :: text, rest)
  | '\\' :: c :: rest =>
    match simpleEscape? c, string? rest with
    | some ch, some (text, rest) => some (ch :: text, rest)
    | _, _ => none
  | c :: rest =>
    if c.toNat < 0x20 ∨ c = '\\' then none
    else (string? rest).map fun (text, rest) => (c :: text, rest)
  | [] => none

/-- The digits of an exponent with its sign. -/
def exponent? (cs : List Char) : Option (Int × List Char) :=
  let (negative, digits) := match cs with
    | '-' :: rest => (true, rest)
    | '+' :: rest => (false, rest)
    | rest => (false, rest)
  let run := digits.takeWhile Char.isDigit
  if run.isEmpty then none
  else
    let n : Int := Digits.value run
    some (if negative then -n else n, digits.dropWhile Char.isDigit)

/-- A number; no zero precedes other digits of its whole part. -/
def number? (cs : List Char) : Option (Number × List Char) :=
  let (negative, digits) := match cs with
    | '-' :: rest => (true, rest)
    | rest => (false, rest)
  let whole := digits.takeWhile Char.isDigit
  let rest := digits.dropWhile Char.isDigit
  if whole.isEmpty ∨ (whole.head? = some '0' ∧ whole.length ≠ 1) then none
  else do
    let (fraction, rest, pointed) ← match rest with
      | '.' :: after =>
        let run := after.takeWhile Char.isDigit
        if run.isEmpty then none else some (run, after.dropWhile Char.isDigit, true)
      | rest => some ([], rest, false)
    let (exponent, rest, scaled) ← match rest with
      | c :: after =>
        if c = 'e' ∨ c = 'E' then (exponent? after).map fun (n, rest) => (n, rest, true)
        else some (0, c :: after, false)
      | [] => some (0, [], false)
    let n ← Number.Written.number? ⟨negative, whole, fraction, exponent, !(pointed || scaled)⟩
    return (n, rest)

/-- The first token of a text and what follows it. -/
def next? (c : Char) (rest : List Char) : Option (Token × List Char) :=
  match Token.ofMark? c with
  | some mark => some (mark, rest)
  | none =>
    if c = '"' then (string? rest).map fun (text, rest) => (.string (String.ofList text), rest)
    else match c, rest with
      | 't', 'r' :: 'u' :: 'e' :: rest => some (.literal (.bool true), rest)
      | 'f', 'a' :: 'l' :: 's' :: 'e' :: rest => some (.literal (.bool false), rest)
      | 'n', 'u' :: 'l' :: 'l' :: rest => some (.literal .null, rest)
      | c, rest => (number? (c :: rest)).map fun (n, rest) => (.literal (.number n), rest)

/-- The tokens of a text. Each one takes at least a character; a step that did not would end the
text. -/
def tokens? : List Char → Option (List Token)
  | [] => some []
  | c :: cs =>
    if isSpace c then tokens? cs
    else match next? c cs with
      | none => none
      | some (t, rest) =>
        if rest.length ≤ cs.length then (tokens? rest).map (t :: ·) else none
termination_by cs => cs.length

end Lexer

/-- What is read from tokens, and a rest that is shorter than they are. -/
abbrev Taken (α : Type) (ts : List Token) :=
  Option (α × { rest : List Token // rest.length < ts.length })

mutual

/-- A value with at most `depth` nested arrays and objects. -/
def value? (depth : Nat) (ts : List Token) : Taken Json ts :=
  match ts with
  | .literal j :: rest => some (j, ⟨rest, by simp⟩)
  | .string s :: rest => some (.string s, ⟨rest, by simp⟩)
  | .openArray :: .closeArray :: rest =>
    if depth = 0 then none else some (.array [], ⟨rest, by simp only [List.length_cons]; omega⟩)
  | .openArray :: rest =>
    if depth = 0 then none
    else do
      let (items, ⟨rest', h⟩) ← items? (depth - 1) rest
      some (.array items, ⟨rest', by simp only [List.length_cons]; omega⟩)
  | .openObject :: .closeObject :: rest =>
    if depth = 0 then none
    else some (.object Dict.empty, ⟨rest, by simp only [List.length_cons]; omega⟩)
  | .openObject :: rest =>
    if depth = 0 then none
    else do
      let (members, ⟨rest', h⟩) ← members? (depth - 1) rest
      some (.object (Dict.ofList members), ⟨rest', by simp only [List.length_cons]; omega⟩)
  | _ => none
termination_by 2 * ts.length

/-- The items of an array up to its bracket. -/
def items? (depth : Nat) (ts : List Token) : Taken (List Json) ts := do
  let (j, ⟨rest, h⟩) ← value? depth ts
  match rest, h with
  | .closeArray :: rest, h => some ([j], ⟨rest, by simp only [List.length_cons] at h; omega⟩)
  | .comma :: rest, h => do
    let (js, ⟨rest', h'⟩) ← items? depth rest
    some (j :: js, ⟨rest', by simp only [List.length_cons] at h; omega⟩)
  | _, _ => none
termination_by 2 * ts.length + 1
decreasing_by
  · omega
  · simp only [List.length_cons] at h; omega

/-- The members of an object up to its brace. -/
def members? (depth : Nat) (ts : List Token) : Taken (List (String × Json)) ts :=
  match ts with
  | .string key :: .colon :: rest => do
    let (j, ⟨rest', h⟩) ← value? depth rest
    match rest', h with
    | .closeObject :: rest, h =>
      some ([(key, j)], ⟨rest, by simp only [List.length_cons] at h ⊢; omega⟩)
    | .comma :: rest, h => do
      let (more, ⟨rest'', h'⟩) ← members? depth rest
      some ((key, j) :: more, ⟨rest'', by simp only [List.length_cons] at h ⊢; omega⟩)
    | _, _ => none
  | _ => none
termination_by 2 * ts.length
decreasing_by
  · simp only [List.length_cons]; omega
  · simp only [List.length_cons] at h ⊢; omega

end

/-- The value that a text holds. -/
def parse? (text : String) : Option Json := do
  let ts ← Lexer.tokens? text.toList
  let (j, ⟨rest, _⟩) ← value? 127 ts
  if rest.isEmpty then some j else none

end SlotTemplate.Json
