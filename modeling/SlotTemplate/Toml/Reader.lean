import SlotTemplate.Toml.Quoted
import SlotTemplate.Toml.Document

/-!
# Reading TOML texts

A text is read into statements, line by line, and the statements are built into a table.
-/

namespace SlotTemplate.Toml

/-- Something read, and a rest that is shorter than the text. -/
abbrev Taken (α : Type) (cs : List Char) :=
  Option (α × { rest : List Char // rest.length < cs.length })

/-- Accepts a reading that takes at least a character. -/
def taken {α : Type} {cs : List Char} : Option (α × List Char) → Taken α cs
  | some (a, rest) => if h : rest.length < cs.length then some (a, ⟨rest, h⟩) else none
  | none => none

def isSpace (c : Char) : Bool := c == ' ' || c == '\t'

def skipSpaces (cs : List Char) : List Char := cs.dropWhile isSpace

/-- What follows a line break. -/
def lineBreak? : List Char → Option (List Char)
  | '\n' :: rest => some rest
  | '\r' :: '\n' :: rest => some rest
  | _ => none

/-- Skips spaces and a comment. -/
def skipComment (cs : List Char) : List Char :=
  match skipSpaces cs with
  | '#' :: rest => rest.dropWhile isTextChar
  | rest => rest

/-- What follows the end of a line, which spaces and a comment may precede. -/
def endLine? (cs : List Char) : Option (List Char) :=
  match skipComment cs with
  | [] => some []
  | rest => lineBreak? rest

/-- Skips spaces, comments and line breaks. -/
def skipLines (cs : List Char) : List Char :=
  match lineBreak? (skipComment cs) with
  | some rest => if rest.length < cs.length then skipLines rest else rest
  | none => skipComment cs
termination_by cs.length

def isBareKeyChar (c : Char) : Bool := c.isAlphanum || c == '_' || c == '-'

/-- A single key, bare or quoted on one line. -/
def simpleKey? (cs : List Char) : Option (String × List Char) :=
  match cs with
  | [] => none
  | c :: rest =>
    if c = '"' ∨ c = '\'' then
      (singleLine? c rest).map fun (text, rest) => (String.ofList text, rest)
    else
      let run := cs.takeWhile isBareKeyChar
      if run.isEmpty then none else some (String.ofList run, cs.dropWhile isBareKeyChar)

/-- Keys with dots between them and spaces around them. -/
def keys? (cs : List Char) : Option (List String × List Char) :=
  match (simpleKey? (skipSpaces cs) : Option (String × List Char)) with
  | none => none
  | some (key, rest) =>
    match skipSpaces rest with
    | '.' :: rest =>
      if rest.length < cs.length then (keys? rest).map fun (ks, rest) => (key :: ks, rest) else none
    | rest => some ([key], rest)
termination_by cs.length

/-- How many keys a dotted key may have, less one, and how deep values may nest. -/
def maxNesting : Nat := 79

/-- The path and the last key of a dotted key. -/
def dottedKey? (cs : List Char) : Option ((List String × String) × List Char) :=
  (keys? cs).bind fun (ks, rest) =>
    match ks.getLast? with
    | some key => if ks.length ≤ maxNesting then some ((ks.dropLast, key), rest) else none
    | none => none

/-- The characters of scalars that are not quoted. -/
def isScalarChar (c : Char) : Bool := c.isAlphanum || "_+-.:".toList.contains c

/-- A scalar that is not quoted. A space may divide a date from a time. -/
def bareScalar? (cs : List Char) : Option (Toml × List Char) :=
  let run := cs.takeWhile isScalarChar
  let rest := cs.dropWhile isScalarChar
  let joined := match rest with
    | ' ' :: more =>
      (datetime? (run ++ ' ' :: more.takeWhile isScalarChar)).map fun t =>
        (Toml.datetime t, more.dropWhile isScalarChar)
    | _ => none
  match joined with
  | some result => some result
  | none => (scalar? run).map (·, rest)

/-- What follows a key's equals sign. -/
def assigned? (cs : List Char) : Option ((List String × String) × List Char) :=
  (dottedKey? cs).bind fun (key, rest) =>
    match rest with
    | '=' :: rest => some (key, skipSpaces rest)
    | _ => none

mutual

/-- A value with at most `depth` nested arrays and inline tables. -/
def value? (depth : Nat) (cs : List Char) : Taken Toml cs :=
  match cs with
  | '[' :: rest =>
    if depth = 0 then none
    else do
      let (items, ⟨rest', h⟩) ← items? (depth - 1) rest
      some (.array items, ⟨rest', by simp only [List.length_cons]; omega⟩)
  | '{' :: rest =>
    if depth = 0 then none
    else match skipSpaces rest with
      | '}' :: after => taken (some (.table [], after))
      | _ => do
        let (d, ⟨rest', h⟩) ← entries? (depth - 1) (.empty .written) rest
        some (d.toToml, ⟨rest', by simp only [List.length_cons]; omega⟩)
  | c :: rest =>
    if c = '"' ∨ c = '\'' then
      taken ((quotedText? (c :: rest)).map fun (text, rest) => (.string text, rest))
    else taken (bareScalar? (c :: rest))
  | [] => none
termination_by 2 * cs.length

/-- The items of an array up to its bracket; a comma may follow the last one. -/
def items? (depth : Nat) (cs : List Char) : Taken (List Toml) cs :=
  match skipLines cs with
  | ']' :: rest => taken (some ([], rest))
  | here =>
    if hle : here.length ≤ cs.length then do
      let (t, ⟨rest, h⟩) ← value? depth here
      match skipLines rest with
      | ']' :: rest => taken (some ([t], rest))
      | ',' :: rest =>
        if h' : rest.length < cs.length then do
          let (ts, ⟨rest', _⟩) ← items? depth rest
          some (t :: ts, ⟨rest', by omega⟩)
        else none
      | _ => none
    else none
termination_by 2 * cs.length + 1

/-- The entries of an inline table up to its brace, added to those that it has. -/
def entries? (depth : Nat) (d : Draft) (cs : List Char) : Taken Draft cs :=
  match (taken (assigned? cs) : Taken (List String × String) cs) with
  | none => none
  | some ((path, key), ⟨start, hs⟩) => do
    let (t, ⟨rest, h⟩) ← value? depth start
    let d ← d.insert path key t
    match skipSpaces rest with
    | '}' :: after => taken (some (d, after))
    | ',' :: after =>
      if h' : after.length < cs.length then do
        let (d, ⟨rest', _⟩) ← entries? depth d after
        some (d, ⟨rest', by omega⟩)
      else none
    | _ => none
termination_by 2 * cs.length + 1

end

/-- The header of a table or of an array of tables, behind its first bracket. -/
def header? (cs : List Char) : Option (Statement × List Char) :=
  match cs with
  | '[' :: rest =>
    (dottedKey? rest).bind fun ((path, key), rest) =>
      match rest with
      | ']' :: ']' :: rest => some (.arrayHeader path key, rest)
      | _ => none
  | rest =>
    (dottedKey? rest).bind fun ((path, key), rest) =>
      match rest with
      | ']' :: rest => some (.header path key, rest)
      | _ => none

/-- The statement at the start of a text, and what follows it. -/
def statement? (cs : List Char) : Option (Statement × List Char) :=
  match cs with
  | '[' :: rest => header? rest
  | cs =>
    (assigned? cs).bind fun ((path, key), start) =>
      (value? maxNesting start).map fun (t, ⟨rest, _⟩) => (.entry path key t, rest)

/-- The statements of a text, each on a line of its own. -/
def statements? (cs : List Char) : Option (List Statement) :=
  let here := skipLines cs
  if here.isEmpty then some []
  else match statement? here with
    | none => none
    | some (s, rest) =>
      match endLine? rest with
      | none => none
      | some rest =>
        if rest.length < cs.length then (statements? rest).map (s :: ·) else none
termination_by cs.length

/-- Skips the byte order mark. -/
def skipMark : List Char → List Char
  | '\uFEFF' :: rest => rest
  | cs => cs

/-- The table that a text describes. -/
def parse? (text : String) : Option Toml :=
  (statements? (skipMark text.toList)).bind Document.ofStatements?

end SlotTemplate.Toml
