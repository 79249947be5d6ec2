import SlotTemplate.Toml.Scalar

/-!
# Quoted TOML texts

The four forms of quoted text: with and without escapes, on one line and on several.
-/

namespace SlotTemplate.Toml

/-- Whether a character may stand in a comment or a text: tabs and all that is no control
character. -/
def isTextChar (c : Char) : Bool := c == '\t' || (0x20 ≤ c.toNat && c.toNat != 0x7F)

/-- Whether a number is the code point of a character. -/
def charOf? (n : Nat) : Option Char := if n.isValidChar then some (Char.ofNat n) else none

/-- The character of exactly `digits` hexadecimal digits, and what follows them. -/
def codePoint? (digits : Nat) (cs : List Char) : Option (Char × List Char) :=
  let run := cs.take digits
  if run.length = digits && run.all isHex then
    (charOf? (run.foldl (fun n c => 16 * n + hexValue c) 0)).map (·, cs.drop digits)
  else none

/-- The character that an escape stands for, and what follows it. -/
def escaped? : List Char → Option (Char × List Char)
  | 'b' :: rest => some ('\x08', rest)
  | 't' :: rest => some ('\t', rest)
  | 'n' :: rest => some ('\n', rest)
  | 'f' :: rest => some ('\x0c', rest)
  | 'r' :: rest => some ('\r', rest)
  | '"' :: rest => some ('"', rest)
  | '\\' :: rest => some ('\\', rest)
  | 'u' :: rest => codePoint? 4 rest
  | 'U' :: rest => codePoint? 8 rest
  | _ => none

/-- A text on one line up to its closing quote; only double quotes allow escapes. -/
def singleLine? (q : Char) (cs : List Char) : Option (List Char × List Char) :=
  match cs with
  | [] => none
  | c :: rest =>
    if c = q then some ([], rest)
    else if c = '\\' ∧ q = '"' then
      match escaped? rest with
      | some (d, rest') =>
        if rest'.length ≤ rest.length then
          (singleLine? q rest').map fun (text, rest) => (d :: text, rest)
        else none
      | none => none
    else if isTextChar c then (singleLine? q rest).map fun (text, rest) => (c :: text, rest)
    else none
termination_by cs.length

/-- Skips blanks and line breaks after a backslash at the end of a line. -/
def skipContinuation : List Char → List Char
  | '\r' :: '\n' :: rest => skipContinuation rest
  | c :: rest => if c = ' ' ∨ c = '\t' ∨ c = '\n' then skipContinuation rest else c :: rest
  | [] => []

/-- What follows a backslash that ends its line, if nothing but blanks stands between. -/
def continuation? (cs : List Char) : Option (List Char) :=
  match cs.dropWhile (fun c => c = ' ' ∨ c = '\t') with
  | '\n' :: rest => some (skipContinuation rest)
  | '\r' :: '\n' :: rest => some (skipContinuation rest)
  | _ => none

/-- A text on several lines up to three quotes; up to two more quotes before them belong to it. -/
def multiLine? (q : Char) (cs : List Char) : Option (List Char × List Char) :=
  match cs with
  | [] => none
  | '\r' :: '\n' :: rest => (multiLine? q rest).map fun (text, rest) => ('\n' :: text, rest)
  | c :: rest =>
    if c = q then
      match rest with
      | d :: e :: after =>
        if d = q ∧ e = q then
          let extra := after.takeWhile (· == q)
          if extra.length ≤ 2 then some (extra, after.drop extra.length) else none
        else (multiLine? q (d :: e :: after)).map fun (text, rest) => (c :: text, rest)
      | _ => none
    else if c = '\\' ∧ q = '"' then
      match continuation? rest, escaped? rest with
      | some rest', _ =>
        if rest'.length ≤ rest.length then multiLine? q rest' else none
      | none, some (d, rest') =>
        if rest'.length ≤ rest.length then
          (multiLine? q rest').map fun (text, rest) => (d :: text, rest)
        else none
      | none, none => none
    else if isTextChar c ∨ c = '\n' then
      (multiLine? q rest).map fun (text, rest) => (c :: text, rest)
    else none
termination_by cs.length

/-- Skips the line break right behind the opening quotes. -/
def skipFirstBreak : List Char → List Char
  | '\n' :: rest => rest
  | '\r' :: '\n' :: rest => rest
  | rest => rest

/-- A quoted text of any form, and what follows it. -/
def quotedText? : List Char → Option (String × List Char)
  | c :: rest =>
    if c = '"' ∨ c = '\'' then
      let text := match rest with
        | d :: e :: after =>
          if d = c ∧ e = c then multiLine? c (skipFirstBreak after) else singleLine? c rest
        | rest => singleLine? c rest
      text.map fun (text, rest) => (String.ofList text, rest)
    else none
  | [] => none

end SlotTemplate.Toml
