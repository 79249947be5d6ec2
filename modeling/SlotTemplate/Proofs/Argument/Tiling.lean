import Mathlib.Data.List.Chain
import SlotTemplate.Proofs.Argument.Fragments
import SlotTemplate.Proofs.Argument.Keys
import SlotTemplate.Proofs.Argument.Relocation
import SlotTemplate.Proofs.Numeral

/-!
# Tokens tile their text

A text that is read as tokens consists of their spellings and of gaps. Each token is as long as it
can be, and digits around a point behind a dot are two indices.

* `Spells`: how a token is spelled;
* `Tiles`: how tokens cover a text;
* `step_eq_tokens_iff`, `lexFrom_eq_ok_iff`: a step and lexing read just what is spelled so;
* `lexFrom_before_error`: lexing reads all that stands in front of what it cannot read;
* `lex_ends`: how lexing ends.
-/

namespace SlotTemplate

/-- The integer that digits stand for, with a minus sign in front or without. -/
inductive Digits.Stand : List Char → Int → Prop where
  | plain {ds : List Char} (nonempty : ds ≠ []) (digits : ∀ c ∈ ds, c.isDigit = true) :
      Stand ds (value ds)
  | minus {ds : List Char} (nonempty : ds ≠ []) (digits : ∀ c ∈ ds, c.isDigit = true) :
      Stand ('-' :: ds) (-(value ds : Int))

theorem Int64.ofText?_eq_some_iff {cs : List Char} {n : Int64} :
    Int64.ofText? cs = some n ↔ Digits.Stand cs n.toInt := by
  constructor
  · intro h
    unfold Int64.ofText? at h
    split at h <;> obtain ⟨m, read, fits⟩ := Option.bind_eq_some_iff.1 h <;>
      obtain ⟨nonempty, digits, rfl⟩ := Digits.value?_eq_some_iff.1 read <;>
      rw [Int64.ofInt?_eq_some_iff.1 fits]
    · exact .minus nonempty digits
    · exact .plain nonempty digits
  · intro h
    generalize whole : n.toInt = m at h
    cases h with
    | plain nonempty digits =>
      rw [Int64.ofText?, Digits.value?_eq_some_iff.2 ⟨nonempty, digits, rfl⟩]
      · exact Int64.ofInt?_eq_some_iff.2 whole
      · rintro ds rfl
        cases digits '-' List.mem_cons_self
    | minus nonempty digits =>
      rw [Int64.ofText?, Digits.value?_eq_some_iff.2 ⟨nonempty, digits, rfl⟩]
      exact Int64.ofInt?_eq_some_iff.2 whole

theorem Digits.Stand.signed {cs : List Char} {n : Int} (h : Digits.Stand cs n) :
    Argument.SignedDigits cs := by
  cases h with
  | plain nonempty digits => exact ⟨_, .inl rfl, nonempty, digits⟩
  | minus nonempty digits => exact ⟨_, .inr rfl, nonempty, digits⟩

namespace Argument

/-! ## Spellings -/

/-- What stands between quotes, and the text that it stands for. A backslash takes the next
character along, which is no line break. With `n` it stands for a line break and with `t` for a tab,
and else for the character behind it. -/
inductive Decodes (q : Char) : List Char → List Char → Prop where
  | nil : Decodes q [] []
  | plain {c : Char} {body text : List Char} (quote : c ≠ q) (escape : c ≠ '\\')
      (rest : Decodes q body text) : Decodes q (c :: body) (c :: text)
  | newline {body text : List Char} (rest : Decodes q body text) :
      Decodes q ('\\' :: 'n' :: body) ('\n' :: text)
  | tab {body text : List Char} (rest : Decodes q body text) :
      Decodes q ('\\' :: 't' :: body) ('\t' :: text)
  | escaped {c : Char} {body text : List Char} (letter : c ≠ 'n' ∧ c ≠ 't') (line : c ≠ '\n')
      (rest : Decodes q body text) : Decodes q ('\\' :: c :: body) (c :: text)

/-- How a token is spelled. -/
inductive Spells : Token → List Char → Prop where
  | equals : Spells .equals ['=']
  | pipe : Spells .pipe ['|']
  | colon : Spells .colon [':']
  | dot : Spells .dot ['.']
  | ident {c : Char} {cs : List Char} (start : isIdentStart c = true)
      (parts : ∀ d ∈ cs, isIdentPart d = true) : Spells (.ident (String.ofList (c :: cs))) (c :: cs)
  | string {q : Char} {body text : List Char} (quote : q = '"' ∨ q = '\'')
      (decodes : Decodes q body text) : Spells (.string (String.ofList text)) (q :: (body ++ [q]))
  | int {n : Int64} {w : List Char} (stands : Digits.Stand w n.toInt) : Spells (.int n) w
  | float {x : Binary64} {whole fraction : List Char} (signed : SignedDigits whole)
      (nonempty : fraction ≠ []) (digits : ∀ c ∈ fraction, c.isDigit = true)
      (value : Binary64.ofText? (whole ++ '.' :: fraction) = some x) :
      Spells (.float x) (whole ++ '.' :: fraction)

/-- Tokens cover a text that stands at an offset: what is between them are gaps, what is at each
place is a spelling of the token, and it does not go on behind it. Behind a dot, which may stand in
front of the text, digits around a point are an index, a dot and an index. -/
inductive Tiles : Nat → Bool → List Char → List Placed → Prop where
  | nil {pos : Nat} {afterDot : Bool} : Tiles pos afterDot [] []
  | gap {pos : Nat} {afterDot : Bool} {c : Char} {cs : List Char} {ts : List Placed}
      (gap : isGap c = true) (rest : Tiles (pos + c.utf8Size) afterDot cs ts) :
      Tiles pos afterDot (c :: cs) ts
  | token {pos : Nat} {afterDot : Bool} {t : Token} {w cs : List Char} {ts : List Placed}
      (spells : Spells t w) (follows : Follows [(t, w)] cs)
      (plain : afterDot = true → ∀ x, t ≠ .float x)
      (rest : Tiles (pos + Text.byteSize w) (t == .dot) cs ts) :
      Tiles pos afterDot (w ++ cs) ((t, ⟨pos, pos + Text.byteSize w⟩) :: ts)
  | indices {pos dot : Nat} {a b : Int64} {w w' cs : List Char} {ts : List Placed}
      (first : Spells (.int a) w) (second : Spells (.int b) w')
      (unsigned : ∀ c ∈ w', c.isDigit = true) (follows : NoDigit cs)
      (middle : dot = pos + Text.byteSize w)
      (rest : Tiles (dot + 1 + Text.byteSize w') false cs ts) :
      Tiles pos true (w ++ '.' :: (w' ++ cs))
        ((.int a, ⟨pos, dot⟩) :: (.dot, ⟨dot, dot + 1⟩) ::
          (.int b, ⟨dot + 1, dot + 1 + Text.byteSize w'⟩) :: ts)

/-! ## Steps -/

section

variable {afterDot : Bool} {c q : Char} {cs rest body text : List Char}
  {ts : List (Token × List Char)}

theorem unescape_plain (escape : c ≠ '\\') (body : List Char) :
    unescape (c :: body) = c :: unescape body := by
  rw [unescape] <;> simp [escape]

theorem decodes_of_quoted (h : quoted q cs = .ok (body, rest)) :
    Decodes q body (unescape body) := by
  fun_induction quoted q cs generalizing body with
  | case1 | case3 | case4 => cases h
  | case2 =>
    cases h
    exact .nil
  | case5 d cs line body rest read _ ih =>
    cases h
    by_cases newline : d = 'n'
    · subst newline
      exact .newline (ih read)
    by_cases tab : d = 't'
    · subst tab
      exact .tab (ih read)
    · rw [unescape]
      · exact .escaped ⟨newline, tab⟩ line (ih read)
      · exact newline
      · exact tab
  | case6 => cases h
  | case7 c cs quote escape body rest read ih =>
    cases h
    rw [unescape_plain escape]
    exact .plain quote escape (ih read)
  | case8 => cases h

/-- What stands between quotes is read up to the second one, as what it stands for. -/
theorem Decodes.quoted_eq (h : Decodes q body text) (escape : q ≠ '\\') (rest : List Char) :
    quoted q (body ++ q :: rest) = .ok (body, rest) ∧ unescape body = text := by
  -- a backslash takes the next character along, whichever it is
  have taken {d : Char} {body : List Char} (line : d ≠ '\n')
      (read : quoted q (body ++ q :: rest) = .ok (body, rest)) :
      quoted q ('\\' :: d :: body ++ q :: rest) = .ok ('\\' :: d :: body, rest) := by
    rw [List.cons_append, List.cons_append, quoted, if_neg escape.symm, if_pos rfl]
    simp only [if_neg line, read]
  induction h with
  | nil =>
    refine ⟨?_, rfl⟩
    rw [List.nil_append, quoted.eq_def]
    simp only [if_pos]
  | plain quote escape _ ih =>
    refine ⟨?_, by rw [unescape_plain escape, ih.2]⟩
    rw [List.cons_append, quoted.eq_def]
    simp only [if_neg quote, if_neg escape, ih.1]
  | newline _ ih => exact ⟨taken (by decide) ih.1, by rw [unescape, ih.2]⟩
  | tab _ ih => exact ⟨taken (by decide) ih.1, by rw [unescape, ih.2]⟩
  | escaped letter line _ ih =>
    refine ⟨taken line ih.1, ?_⟩
    rw [unescape, ih.2]
    · exact letter.1
    · exact letter.2

/-- What a step reads: one token, or behind a dot two indices with the dot between them. -/
inductive Reads (afterDot : Bool) : List (Token × List Char) → Prop where
  | token {t : Token} {w : List Char} (spells : Spells t w)
      (plain : afterDot = true → ∀ x, t ≠ .float x) : Reads afterDot [(t, w)]
  | indices {a b : Int64} {w w' : List Char} (dot : afterDot = true) (first : Spells (.int a) w)
      (second : Spells (.int b) w') (unsigned : ∀ c ∈ w', c.isDigit = true) :
      Reads afterDot [(.int a, w), (.dot, ['.']), (.int b, w')]

theorem integer_spells {whole : List Char} (h : integer whole cs = .tokens ts rest) :
    Reads afterDot ts := by
  unfold integer at h
  split at h <;> cases h
  rename_i n value
  refine .token (.int (Int64.ofText?_eq_some_iff.1 value)) ?_
  rintro - x ⟨⟩

theorem number_spells {whole : List Char} (signed : SignedDigits whole)
    (h : number afterDot whole cs = .tokens ts rest) : Reads afterDot ts := by
  rw [number.eq_def] at h
  split at h
  · rename_i after
    obtain ⟨fraction, left, rfl, digits, -, run, drop⟩ := run_split Char.isDigit after
    rw [run, drop] at h
    split at h
    · exact integer_spells h
    · rename_i nonempty
      unfold pointed at h
      split at h
      · rename_i dot
        split at h <;> cases h
        rename_i a b first second
        exact .indices dot (.int (Int64.ofText?_eq_some_iff.1 first))
          (.int (Int64.ofText?_eq_some_iff.1 second)) digits
      · rename_i plain
        split at h <;> cases h
        rename_i x value
        have some : fraction ≠ [] := fun none => nonempty (by rw [none]; rfl)
        exact .token (.float signed some digits value) fun dot => absurd dot plain
  · exact integer_spells h

theorem step_spells (h : step afterDot c cs = .tokens ts rest) : Reads afterDot ts := by
  have single {t : Token} {w : List Char} (spells : Spells t w) (plain : ∀ x, t ≠ .float x)
      {left : List Char} (h : Step.tokens [(t, w)] left = .tokens ts rest) : Reads afterDot ts := by
    cases h
    exact .token spells fun _ => plain
  unfold step at h
  split at h
  · cases h
  split at h
  · rename_i same
    exact single (by rw [same]; exact .equals) (by rintro x ⟨⟩) h
  split at h
  · rename_i same
    exact single (by rw [same]; exact .pipe) (by rintro x ⟨⟩) h
  split at h
  · rename_i same
    exact single (by rw [same]; exact .colon) (by rintro x ⟨⟩) h
  split at h
  · rename_i same
    exact single (by rw [same]; exact .dot) (by rintro x ⟨⟩) h
  split at h
  · rename_i start
    exact single (.ident start fun d hd => List.all_eq_true.1 List.all_takeWhile d hd)
      (by rintro x ⟨⟩) h
  split at h
  · rename_i quote
    split at h
    · rename_i body left read
      exact single (.string quote (decodes_of_quoted read)) (by rintro x ⟨⟩) h
    · cases h
  · split at h
    · rename_i whole left digits
      exact number_spells (signedDigits?_eq_some_iff.1 digits).2.1 h
    · cases h

theorem number_point {whole fraction : List Char} (nonempty : fraction ≠ [])
    (digits : ∀ c ∈ fraction, c.isDigit = true) (stop : NoDigit rest) :
    number afterDot whole ('.' :: (fraction ++ rest)) = pointed afterDot whole fraction rest := by
  obtain ⟨run, drop⟩ := Text.run_append digits stop
  rw [number, run, drop, if_neg (by simpa using nonempty)]

theorem noDigit_point (cs : List Char) : NoDigit ('.' :: cs) := by
  rintro _ ⟨⟩
  decide

/-- A step reads a token that is spelled at the start of a text and does not go on there. -/
theorem Spells.step_eq {t : Token} {w : List Char} (spells : Spells t w)
    (follows : Follows [(t, w)] rest) (plain : afterDot = true → ∀ x, t ≠ .float x) :
    ∃ c cs, w ++ rest = c :: cs ∧ step afterDot c cs = .tokens [(t, w)] rest := by
  cases spells with
  | equals | pipe | colon | dot => exact ⟨_, _, rfl, rfl⟩
  | @ident c cs start parts =>
    have identifier : isIdentifier (String.ofList (c :: cs)) = true := by
      rw [isIdentifier, String.toList_ofList]
      exact Bool.and_eq_true_iff.2 ⟨start, List.all_eq_true.2 parts⟩
    have stop : NoName rest := follows
    have read := step_name afterDot identifier stop
    rw [String.toList_ofList] at read
    exact read
  | @string q body text quote decodes =>
    have escape : q ≠ '\\' := by
      rintro rfl
      exact absurd quote (by decide)
    obtain ⟨read, value⟩ := decodes.quoted_eq escape rest
    refine ⟨q, body ++ q :: rest, by simp, ?_⟩
    rcases quote with mark | mark <;> rw [mark] at read ⊢ <;>
      simp [step, isGap, isIdentStart, read, value]
  | @int n _ stands =>
    obtain ⟨c, cs, split, read⟩ := step_signed afterDot stands.signed follows.1
    refine ⟨c, cs, split, ?_⟩
    rw [read, number_plain follows.2, integer, Int64.ofText?_eq_some_iff.2 stands]
  | @float x whole fraction signed nonempty digits value =>
    obtain ⟨c, cs, split, read⟩ :=
      step_signed afterDot signed (noDigit_point (fraction ++ rest))
    refine ⟨c, cs, by rw [List.append_assoc, List.cons_append, split], ?_⟩
    have apart : ¬ afterDot = true := fun dot => plain dot x rfl
    rw [read, number_point nonempty digits follows, pointed, if_neg apart, value]

theorem Spells.nonempty {t : Token} {w : List Char} (spells : Spells t w) : w ≠ [] := by
  cases spells with
  | equals | pipe | colon | dot | ident | string => exact List.cons_ne_nil _ _
  | float => simp
  | int stands =>
    obtain ⟨ds, form, some, -⟩ := stands.signed
    rintro rfl
    rcases form with form | form
    · exact some form.symm
    · cases form

/-- Behind a dot, a step reads an index, a dot and an index. -/
theorem step_indices {a b : Int64} {w w' : List Char} (first : Spells (.int a) w)
    (second : Spells (.int b) w') (unsigned : ∀ c ∈ w', c.isDigit = true) (stop : NoDigit rest) :
    ∃ c cs, w ++ '.' :: (w' ++ rest) = c :: cs ∧
      step true c cs = .tokens [(.int a, w), (.dot, ['.']), (.int b, w')] rest := by
  have some := second.nonempty
  cases first with | int first =>
  cases second with | int second =>
  obtain ⟨c, cs, split, read⟩ := step_signed true first.signed (noDigit_point (w' ++ rest))
  refine ⟨c, cs, split, ?_⟩
  rw [read, number_point some unsigned stop, pointed, if_pos rfl,
    Int64.ofText?_eq_some_iff.2 first, Int64.ofText?_eq_some_iff.2 second]

theorem spelled_single (t : Token) (w : List Char) : spelled [(t, w)] = w := List.append_nil w

theorem spelled_indices (a b : Int64) (w w' : List Char) :
    spelled [(.int a, w), (.dot, ['.']), (.int b, w')] = w ++ '.' :: w' := by
  simp [spelled]

theorem endsWithDot_single (t : Token) (w : List Char) : endsWithDot [(t, w)] = (t == .dot) := by
  cases t <;> rfl

/-- A step reads what is spelled at the start of a text and does not go on there, and nothing
else. -/
theorem step_eq_tokens_iff : step afterDot c cs = .tokens ts rest ↔
    c :: cs = spelled ts ++ rest ∧ Reads afterDot ts ∧ Follows ts rest := by
  constructor
  · intro h
    obtain ⟨w, -, follows, -⟩ := step_reads h
    exact ⟨(step_tokens h).1, step_spells h, follows⟩
  · rintro ⟨split, reads, follows⟩
    -- the first character is that of the spelling
    have here (read : ∃ d ds, spelled ts ++ rest = d :: ds ∧
        step afterDot d ds = .tokens ts rest) : step afterDot c cs = .tokens ts rest := by
      obtain ⟨d, ds, same, read⟩ := read
      rw [same] at split
      obtain ⟨rfl, rfl⟩ := List.cons.inj split
      exact read
    cases reads with
    | token spells plain =>
      rw [spelled_single] at here
      exact here (spells.step_eq follows plain)
    | indices dot first second unsigned =>
      rw [spelled_indices, List.append_assoc, List.cons_append, dot] at here
      rw [dot]
      exact here (step_indices first second unsigned follows)

end

/-! ## Texts -/

section

variable {pos : Nat} {afterDot : Bool} {cs : List Char} {ts : List Placed}

theorem Tiles.of_step {c : Char} {rest : List Char} {ws : List (Token × List Char)}
    (read : step afterDot c cs = .tokens ws rest)
    (behind : Tiles (pos + Text.byteSize (spelled ws)) (endsWithDot ws) rest ts) :
    Tiles pos afterDot (c :: cs) (placeTokens pos ws ++ ts) := by
  obtain ⟨split, reads, follows⟩ := step_eq_tokens_iff.1 read
  rw [split]
  cases reads with
  | @token t w spells plain =>
    rw [spelled_single] at behind ⊢
    rw [endsWithDot_single] at behind
    exact .token spells follows plain behind
  | @indices a b w w' dot first second unsigned =>
    subst dot
    have point : '.'.utf8Size = 1 := rfl
    rw [spelled_indices, Text.byteSize_append, Text.byteSize_cons, point, ← Nat.add_assoc,
      ← Nat.add_assoc] at behind
    rw [spelled_indices, List.append_assoc, List.cons_append]
    exact .indices first second unsigned follows rfl behind

/-- The tokens of a text are those that tile it. -/
theorem lexFrom_eq_ok_iff : lexFrom pos afterDot cs = .ok ts ↔ Tiles pos afterDot cs ts := by
  constructor
  · intro h
    fun_induction lexFrom pos afterDot cs generalizing ts with
    | case1 =>
      cases h
      exact .nil
    | case2 pos afterDot c cs _ _ read ih => exact .gap (isGap_of_step read) (ih h)
    | case3 pos afterDot c cs ws rest read more lexed ih =>
      cases h
      exact .of_step read (ih lexed)
    | case4 => cases h
    | case5 => cases h
  · intro h
    induction h with
    | nil => rw [lexFrom]
    | @gap pos afterDot c cs ts gap _ ih =>
      have read : step afterDot c cs = .gap c cs := by rw [step, if_pos gap]
      rw [lexFrom_gap read, ih]
    | token spells follows plain _ ih =>
      obtain ⟨c, rest, split, read⟩ := spells.step_eq follows plain
      rw [split, lexFrom_tokens read, spelled_single, endsWithDot_single, ih]
      rfl
    | indices first second unsigned follows middle _ ih =>
      obtain ⟨c, rest, split, read⟩ := step_indices first second unsigned follows
      have point : '.'.utf8Size = 1 := rfl
      subst middle
      rw [split, lexFrom_tokens read, spelled_indices, Text.byteSize_append, Text.byteSize_cons,
        point, ← Nat.add_assoc, ← Nat.add_assoc]
      exact congrArg (Except.map _) ih

namespace Tiles

variable (h : Tiles pos afterDot cs ts)

include h

/-- What stands at the place of a token is its spelling. -/
theorem spelt : ∀ t ∈ ts, ∃ front w back, cs = front ++ (w ++ back) ∧ Spells t.1 w ∧
    t.2 = ⟨pos + Text.byteSize front, pos + Text.byteSize front + Text.byteSize w⟩ := by
  induction h with
  | nil => exact List.forall_mem_nil _
  | @gap pos afterDot c cs ts gap _ ih =>
    intro t member
    obtain ⟨front, w, back, rfl, spells, place⟩ := ih t member
    refine ⟨c :: front, w, back, rfl, spells, ?_⟩
    rw [Text.byteSize_cons, ← Nat.add_assoc]
    exact place
  | @token pos afterDot t w cs ts spells follows plain _ ih =>
    refine List.forall_mem_cons.2 ⟨⟨[], w, cs, rfl, spells, rfl⟩, fun u member => ?_⟩
    obtain ⟨front, v, back, rfl, spells, place⟩ := ih u member
    refine ⟨w ++ front, v, back, by rw [List.append_assoc], spells, ?_⟩
    rw [Text.byteSize_append, ← Nat.add_assoc]
    exact place
  | @indices pos dot a b w w' cs ts first second unsigned follows middle _ ih =>
    subst middle
    refine List.forall_mem_cons.2 ⟨⟨[], w, _, rfl, first, rfl⟩, List.forall_mem_cons.2
      ⟨⟨w, ['.'], w' ++ cs, rfl, .dot, rfl⟩, List.forall_mem_cons.2
        ⟨⟨w ++ ['.'], w', cs, by simp, second, ?_⟩, fun u member => ?_⟩⟩⟩
    · rw [Text.byteSize_append]
      rfl
    · obtain ⟨front, v, back, rfl, spells, place⟩ := ih u member
      refine ⟨w ++ '.' :: (w' ++ front), v, back, by simp, spells, ?_⟩
      have point : '.'.utf8Size = 1 := rfl
      rw [Text.byteSize_append, Text.byteSize_cons, Text.byteSize_append, point, ← Nat.add_assoc,
        ← Nat.add_assoc, ← Nat.add_assoc]
      exact place

/-- No float stands right behind a dot, which may be in front of the text. -/
theorem floats : (afterDot = true → ∀ t ∈ ts.head?, ∀ x, t.1 ≠ .float x) ∧
    ts.IsChain fun t u => t.1 = .dot → ∀ x, u.1 ≠ .float x := by
  induction h with
  | nil => exact ⟨by rintro - t ⟨⟩, .nil⟩
  | gap _ _ ih => exact ih
  | @token pos afterDot t w cs ts spells follows plain _ ih =>
    refine ⟨?_, List.isChain_cons.2 ⟨fun u head dot => ih.1 (beq_iff_eq.2 dot) u head, ih.2⟩⟩
    rintro dot _ ⟨⟩
    exact plain dot
  | @indices pos dot a b w w' cs ts first second unsigned follows middle _ ih =>
    refine ⟨?_, List.isChain_cons.2 ⟨?_, List.isChain_cons.2 ⟨?_, List.isChain_cons.2 ⟨?_, ih.2⟩⟩⟩⟩
    · rintro - _ ⟨⟩ x ⟨⟩
    · rintro _ ⟨⟩ ⟨⟩
    · rintro _ ⟨⟩ - x ⟨⟩
    · rintro u - ⟨⟩

end Tiles

/-- What stands in front of what cannot be read is read. -/
theorem lexFrom_before_error {span : Span} (h : lexFrom pos afterDot cs = .error span) :
    ∃ before behind us, cs = before ++ behind ∧ behind ≠ [] ∧
      span.start = pos + Text.byteSize before ∧ lexFrom pos afterDot before = .ok us := by
  fun_induction lexFrom pos afterDot cs with
  | case1 => cases h
  | case2 pos afterDot c cs _ _ read ih =>
    obtain ⟨before, behind, us, rfl, some, start, lexed⟩ := ih h
    have gap : step afterDot c before = .gap c before := by rw [step, if_pos (isGap_of_step read)]
    refine ⟨c :: before, behind, us, rfl, some, ?_, by rw [lexFrom_gap gap, lexed]⟩
    rw [Text.byteSize_cons, ← Nat.add_assoc, start]
  | case3 => cases h
  | case4 pos afterDot c cs ws rest read span failed ih =>
    cases h
    obtain ⟨before, behind, us, rfl, some, start, lexed⟩ := ih failed
    obtain ⟨w, word, rfl⟩ := step_split read
    have split : c :: (w ++ (before ++ behind)) = c :: (w ++ before) ++ behind := by simp
    rw [← List.append_assoc] at read
    refine ⟨c :: (w ++ before), behind, placeTokens pos ws ++ us, split, some, ?_, ?_⟩
    · rw [start, word, ← List.cons_append, Text.byteSize_append, Nat.add_assoc]
    · rw [lexFrom_tokens (step_cut read), lexed]
      rfl
  | case5 pos afterDot c cs part read =>
    cases h
    exact ⟨[], c :: cs, [], rfl, List.cons_ne_nil _ _, rfl, by rw [lexFrom]⟩

end

/-- How lexing of a text at an offset ends: with tokens that tile it and stand one behind another,
each spelled at its place, and no float behind a dot; or at a place behind which the text cannot be
tiled, with tokens in front of it. -/
inductive LexEnds (text : String) (offset : Nat) : Except Span (List Placed) → Prop where
  | tokens {ts : List Placed} (tiles : Tiles offset false text.toList ts)
      (places : Between offset (offset + Text.byteSize text.toList) ts)
      (spelt : ∀ t ∈ ts, ∃ front w back, text.toList = front ++ (w ++ back) ∧ Spells t.1 w ∧
        t.2 = ⟨offset + Text.byteSize front, offset + Text.byteSize front + Text.byteSize w⟩)
      (floats : ts.IsChain fun t u => t.1 = .dot → ∀ x, u.1 ≠ .float x) :
      LexEnds text offset (.ok ts)
  | failed {span : Span} {before behind : List Char} {ts : List Placed}
      (untiled : ∀ us, ¬ Tiles offset false text.toList us)
      (within : span.Within offset (offset + Text.byteSize text.toList))
      (split : text.toList = before ++ behind) (nonempty : behind ≠ [])
      (start : span.start = offset + Text.byteSize before)
      (lexed : lex (String.ofList before) offset = .ok ts) : LexEnds text offset (.error span)

/-- A text has the tokens that tile it, if there are any, and else everything in front of what
cannot be read has tokens; and where it stands matters for the places only. -/
theorem lex_ends (text : String) (offset : Nat) :
    LexEnds text offset (lex text offset) ∧
      (∀ ts, lex text offset = .ok ts ↔ Tiles offset false text.toList ts) ∧
      lex text offset =
        ((lex text 0).map fun ts => ts.map fun t => (t.1, t.2.shift offset)).mapError
          (·.shift offset) := by
  refine ⟨?_, fun ts => lexFrom_eq_ok_iff, ?_⟩
  · cases lexed : lex text offset with
    | ok ts =>
      have tiles := lexFrom_eq_ok_iff.1 lexed
      exact .tokens tiles (lexFrom_between lexed) tiles.spelt tiles.floats.2
    | error span =>
      obtain ⟨before, behind, us, split, nonempty, start, front⟩ := lexFrom_before_error lexed
      have readable : lex (String.ofList before) offset = .ok us := by
        rwa [lex, String.toList_ofList]
      refine .failed (fun ts tiles => ?_) (lexFrom_error_within lexed) split nonempty start readable
      cases lexed.symm.trans (lexFrom_eq_ok_iff.2 tiles)
  · have moves := Relocation.shift_moves offset 0 0
    rw [Nat.zero_add] at moves
    exact lexFrom_relocate moves false text.toList

end Argument

end SlotTemplate
