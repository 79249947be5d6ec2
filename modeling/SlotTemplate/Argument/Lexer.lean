import SlotTemplate.Argument.Token

/-!
# From the text of arguments to tokens

* `quoted_eq_ok`: a quoted text is its body, the quote and the rest;
* `step_tokens`: what a step reads is the spellings of its tokens and the rest;
* `lexFrom_gap`, `lexFrom_tokens`, `lexFrom_fail`: how lexing goes on after each step.
-/

namespace SlotTemplate.Argument

/-- The characters that may stand between tokens. -/
def isGap (c : Char) : Bool := c == ' ' || c == '\t' || c == '\n' || c == '\r'

/-- The characters that start an identifier. -/
def isIdentStart (c : Char) : Bool := c.isAlpha || c == '_'

/-- The characters that continue an identifier. -/
def isIdentPart (c : Char) : Bool := c.isAlphanum || c == '_'

/-- Splits a quoted text behind its first quote into its body, still with its escapes, and what
follows the closing quote. A backslash takes the next character along, but no line break. Without a
closing quote the error is the part that could be read. -/
def quoted (q : Char) : List Char → Except (List Char) (List Char × List Char)
  | [] => .error []
  | c :: rest =>
    if c = q then .ok ([], rest)
    else if c = '\\' then
      match rest with
      | [] => .error []
      | d :: rest =>
        if d = '\n' then .error []
        else match quoted q rest with
          | .ok (body, rest) => .ok (c :: d :: body, rest)
          | .error read => .error (c :: d :: read)
    else match quoted q rest with
      | .ok (body, rest) => .ok (c :: body, rest)
      | .error read => .error (c :: read)

theorem quoted_eq_ok {q : Char} {cs body rest : List Char} (h : quoted q cs = .ok (body, rest)) :
    cs = body ++ q :: rest := by
  fun_induction quoted q cs generalizing body with
  | case1 => simp at h
  | case2 => simp_all
  | case3 => simp at h
  | case4 => simp at h
  | case5 d r _ b r' hb _ ih =>
    simp only [Except.ok.injEq, Prod.mk.injEq] at h
    obtain ⟨rfl, rfl⟩ := h
    simp [ih hb]
  | case6 => simp at h
  | case7 c r _ _ b r' hb ih =>
    simp only [Except.ok.injEq, Prod.mk.injEq] at h
    obtain ⟨rfl, rfl⟩ := h
    simp [ih hb]
  | case8 => simp at h

/-- The text that the body of a quoted text stands for. -/
def unescape : List Char → List Char
  | '\\' :: 'n' :: rest => '\n' :: unescape rest
  | '\\' :: 't' :: rest => '\t' :: unescape rest
  | '\\' :: c :: rest => c :: unescape rest
  | c :: rest => c :: unescape rest
  | [] => []

/-- Splits off digits with an optional minus sign. -/
def signedDigits? (cs : List Char) : Option (List Char × List Char) :=
  let (sign, digits) := match cs with
    | '-' :: rest => (['-'], rest)
    | rest => ([], rest)
  let run := digits.takeWhile Char.isDigit
  if run.isEmpty then none else some (sign ++ run, digits.dropWhile Char.isDigit)

theorem signedDigits?_eq_some {cs run rest : List Char} (h : signedDigits? cs = some (run, rest)) :
    cs = run ++ rest ∧ run ≠ [] := by
  unfold signedDigits? at h
  split at h
  rename_i sign digits hs
  have hcs : cs = sign ++ digits := by
    split at hs <;> simp_all
    obtain ⟨rfl, rfl⟩ := hs
    rfl
  simp only [Option.ite_none_left_eq_some, Option.some.injEq, Prod.mk.injEq] at h
  obtain ⟨hne, rfl, rfl⟩ := h
  refine ⟨?_, ?_⟩
  · rw [hcs, List.append_assoc, List.takeWhile_append_dropWhile]
  · intro hnil
    simp_all

/-- What one step over the text reads. -/
inductive Step where
  /-- A character between tokens. -/
  | gap (c : Char) (rest : List Char)
  /-- Tokens that stand side by side, each with its spelling. -/
  | tokens (ts : List (Token × List Char)) (rest : List Char)
  /-- What cannot be read. -/
  | fail (read : List Char)

/-- A number without a point. -/
def integer (whole rest : List Char) : Step :=
  match Int64.ofText? whole with
  | some n => .tokens [(.int n, whole)] rest
  | none => .fail whole

/-- A number with a point. After a dot it is two indices. -/
def pointed (afterDot : Bool) (whole fraction rest : List Char) : Step :=
  if afterDot then
    match Int64.ofText? whole, Int64.ofText? fraction with
    | some a, some b => .tokens [(.int a, whole), (.dot, ['.']), (.int b, fraction)] rest
    | _, _ => .fail (whole ++ '.' :: fraction)
  else match Binary64.ofText? (whole ++ '.' :: fraction) with
    | some x => .tokens [(.float x, whole ++ '.' :: fraction)] rest
    | none => .fail (whole ++ '.' :: fraction)

/-- A number that starts with the given digits, taken as far as possible. -/
def number (afterDot : Bool) (whole rest : List Char) : Step :=
  match rest with
  | '.' :: after =>
    if (after.takeWhile Char.isDigit).isEmpty then integer whole rest
    else pointed afterDot whole (after.takeWhile Char.isDigit) (after.dropWhile Char.isDigit)
  | _ => integer whole rest

/-- One step over a text that starts with `c`. -/
def step (afterDot : Bool) (c : Char) (rest : List Char) : Step :=
  if isGap c then .gap c rest
  else if c = '=' then .tokens [(.equals, [c])] rest
  else if c = '|' then .tokens [(.pipe, [c])] rest
  else if c = ':' then .tokens [(.colon, [c])] rest
  else if c = '.' then .tokens [(.dot, [c])] rest
  else if isIdentStart c then
    let name := c :: rest.takeWhile isIdentPart
    .tokens [(.ident (String.ofList name), name)] (rest.dropWhile isIdentPart)
  else if c = '"' ∨ c = '\'' then
    match quoted c rest with
    | .ok (body, rest) =>
      .tokens [(.string (String.ofList (unescape body)), c :: (body ++ [c]))] rest
    | .error read => .fail (c :: read)
  else match signedDigits? (c :: rest) with
    | some (whole, rest) => number afterDot whole rest
    | none => .fail [c]

/-- The spellings of tokens, one after another. -/
def spelled (ts : List (Token × List Char)) : List Char := ts.flatMap Prod.snd

theorem pointed_tokens {afterDot : Bool} {whole fraction rest rest' : List Char}
    {ts : List (Token × List Char)} (h : pointed afterDot whole fraction rest = .tokens ts rest') :
    whole ++ '.' :: (fraction ++ rest) = spelled ts ++ rest' ∧ spelled ts ≠ [] := by
  unfold pointed at h
  split at h
  · split at h
    · simp only [Step.tokens.injEq] at h
      obtain ⟨rfl, rfl⟩ := h
      simp [spelled]
    · simp at h
  · split at h
    · simp only [Step.tokens.injEq] at h
      obtain ⟨rfl, rfl⟩ := h
      simp [spelled]
    · simp at h

theorem integer_tokens {whole rest rest' : List Char} {ts : List (Token × List Char)}
    (hw : whole ≠ []) (h : integer whole rest = .tokens ts rest') :
    whole ++ rest = spelled ts ++ rest' ∧ spelled ts ≠ [] := by
  unfold integer at h
  split at h
  · simp only [Step.tokens.injEq] at h
    obtain ⟨rfl, rfl⟩ := h
    simp [spelled, hw]
  · simp at h

theorem number_tokens {afterDot : Bool} {whole rest rest' : List Char}
    {ts : List (Token × List Char)} (hw : whole ≠ [])
    (h : number afterDot whole rest = .tokens ts rest') :
    whole ++ rest = spelled ts ++ rest' ∧ spelled ts ≠ [] := by
  unfold number at h
  split at h
  · split at h
    · exact integer_tokens hw h
    · have := pointed_tokens h
      rwa [List.takeWhile_append_dropWhile] at this
  · exact integer_tokens hw h

theorem step_tokens {afterDot : Bool} {c : Char} {rest rest' : List Char}
    {ts : List (Token × List Char)} (h : step afterDot c rest = .tokens ts rest') :
    c :: rest = spelled ts ++ rest' ∧ spelled ts ≠ [] := by
  have single : ∀ {t : Token} {w r : List Char}, w ≠ [] →
      Step.tokens [(t, w)] r = .tokens ts rest' →
      w ++ r = spelled ts ++ rest' ∧ spelled ts ≠ [] := by
    intro t w r hw h
    simp only [Step.tokens.injEq] at h
    obtain ⟨rfl, rfl⟩ := h
    simp [spelled, hw]
  unfold step at h
  split at h
  · simp at h
  split at h
  · simpa using single (by simp) h
  split at h
  · simpa using single (by simp) h
  split at h
  · simpa using single (by simp) h
  split at h
  · simpa using single (by simp) h
  split at h
  · simpa using single (by simp) h
  split at h
  · split at h
    · rename_i hq
      have := single (by simp) h
      simpa [quoted_eq_ok hq] using this
    · simp at h
  · split at h
    · rename_i hd
      obtain ⟨hs, hne⟩ := signedDigits?_eq_some hd
      rw [hs]
      exact number_tokens hne h
    · simp at h

/-- Gives the tokens their places, from an offset on. -/
def placeTokens (pos : Nat) : List (Token × List Char) → List Placed
  | [] => []
  | (t, w) :: ts => (t, ⟨pos, pos + Text.byteSize w⟩) :: placeTokens (pos + Text.byteSize w) ts

/-- Whether the next number follows a dot. -/
def endsWithDot (ts : List (Token × List Char)) : Bool :=
  match ts.getLast? with
  | some (.dot, _) => true
  | _ => false

/-- The tokens of a text that stands at an offset; `afterDot` says whether the last token so far is
a dot. The error is the place of what cannot be read. -/
def lexFrom (pos : Nat) (afterDot : Bool) : List Char → Except Span (List Placed)
  | [] => .ok []
  | c :: cs =>
    match _h : step afterDot c cs with
    | .gap _ _ => lexFrom (pos + c.utf8Size) afterDot cs
    | .tokens ts rest =>
      match lexFrom (pos + Text.byteSize (spelled ts)) (endsWithDot ts) rest with
      | .ok more => .ok (placeTokens pos ts ++ more)
      | .error span => .error span
    | .fail read => .error ⟨pos, pos + Text.byteSize read⟩
termination_by cs => cs.length
decreasing_by
  · simp
  · obtain ⟨he, hne⟩ := step_tokens _h
    have := List.length_pos_iff.2 hne
    rw [he, List.length_append]
    omega

section

variable {pos : Nat} {afterDot : Bool} {c : Char} {cs rest : List Char}

theorem lexFrom_gap {c' : Char} (read : step afterDot c cs = .gap c' rest) :
    lexFrom pos afterDot (c :: cs) = lexFrom (pos + c.utf8Size) afterDot cs := by
  rw [lexFrom]
  split
  · rfl
  · rename_i read'
    cases read.symm.trans read'
  · rename_i read'
    cases read.symm.trans read'

theorem lexFrom_tokens {ts : List (Token × List Char)}
    (read : step afterDot c cs = .tokens ts rest) :
    lexFrom pos afterDot (c :: cs) =
      (lexFrom (pos + Text.byteSize (spelled ts)) (endsWithDot ts) rest).map
        (placeTokens pos ts ++ ·) := by
  rw [lexFrom]
  split
  · rename_i read'
    cases read.symm.trans read'
  · rename_i read'
    cases read.symm.trans read'
    cases lexFrom (pos + Text.byteSize (spelled ts)) (endsWithDot ts) rest <;> rfl
  · rename_i read'
    cases read.symm.trans read'

theorem lexFrom_fail {part : List Char} (read : step afterDot c cs = .fail part) :
    lexFrom pos afterDot (c :: cs) = .error ⟨pos, pos + Text.byteSize part⟩ := by
  rw [lexFrom]
  split
  · rename_i read'
    cases read.symm.trans read'
  · rename_i read'
    cases read.symm.trans read'
  · rename_i read'
    cases read.symm.trans read'
    rfl

end

/-- The tokens of a text that stands at an offset. -/
def lex (text : String) (offset : Nat) : Except Span (List Placed) :=
  lexFrom offset false text.toList

end SlotTemplate.Argument
