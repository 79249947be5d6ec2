import SlotTemplate.Argument.Lexer
import SlotTemplate.Proofs.Markup.Words

/-!
# Steps and what follows them

The first character of a text says what a step reads there. A step reads as far as it goes, so that
what it leaves does not go on with it. It matters in no other way: the step reads the same before
any text that does not go on with what is read.

* `lead`: what the first character says;
* `Follows`: a text does not go on with tokens;
* `step_reads`: what a step reads, and before which texts it reads it;
* `step_cut`, `step_before`: so a step reads the same without a part of what it leaves, and before a
  bar;
* `step_shape`: what tokens a step reads.
-/

namespace SlotTemplate.Argument

/-! ## Names and digits -/

/-- A text does not go on with a name or with digits. -/
def NoName (cs : List Char) : Prop := ∀ c ∈ cs.head?, isIdentPart c = false

/-- A text does not go on with digits. -/
def NoDigit (cs : List Char) : Prop := ∀ c ∈ cs.head?, c.isDigit = false

theorem NoName.noDigit {cs : List Char} (h : NoName cs) : NoDigit cs := by
  intro c hc
  have part := h c hc
  simp only [isIdentPart, Char.isAlphanum, Bool.or_eq_false_iff] at part
  exact part.1.2

section

variable {P : Char → Prop} {cs u : List Char}

theorem head_cut (h : ∀ c ∈ (cs ++ u).head?, P c) : ∀ c ∈ cs.head?, P c := by
  cases cs with
  | nil =>
    intro c hc
    cases hc
  | cons => exact h

theorem head_append (h : ∀ c ∈ cs.head?, P c) (behind : ∀ c ∈ u.head?, P c) :
    ∀ c ∈ (cs ++ u).head?, P c := by
  cases cs with
  | nil => exact behind
  | cons => exact h

end

/-- What a run leaves does not go on with it. -/
theorem run_split (p : Char → Bool) (cs : List Char) :
    ∃ w rest, cs = w ++ rest ∧ (∀ c ∈ w, p c = true) ∧ (∀ c ∈ rest.head?, p c = false) ∧
      cs.takeWhile p = w ∧ cs.dropWhile p = rest := by
  refine ⟨_, _, List.takeWhile_append_dropWhile.symm, ?_, ?_, rfl, rfl⟩
  · exact List.all_eq_true.1 List.all_takeWhile
  · intro c hc
    have stop := List.head?_dropWhile_not p cs
    rw [hc] at stop
    exact stop

variable {afterDot : Bool} {c q : Char} {cs u rest whole : List Char}
  {ts : List (Token × List Char)}

/-- Digits with an optional sign in front. -/
def SignedDigits (cs : List Char) : Prop :=
  ∃ ds, (cs = ds ∨ cs = '-' :: ds) ∧ ds ≠ [] ∧ ∀ c ∈ ds, c.isDigit = true

theorem SignedDigits.starts (h : SignedDigits whole) (split : c :: cs = whole ++ rest) :
    ∃ ds, whole = c :: ds := by
  obtain ⟨ds, rfl | rfl, some, -⟩ := h
  · cases whole with
    | nil => exact absurd rfl some
    | cons d ds => exact ⟨ds, by rw [(List.cons.inj split).1]⟩
  · exact ⟨ds, by rw [(List.cons.inj split).1]⟩

theorem digits_iff {sign : List Char} :
    (if (cs.takeWhile Char.isDigit).isEmpty then none
      else some (sign ++ cs.takeWhile Char.isDigit, cs.dropWhile Char.isDigit)) =
        some (whole, rest) ↔
      ∃ ds, whole = sign ++ ds ∧ cs = ds ++ rest ∧ ds ≠ [] ∧ (∀ c ∈ ds, c.isDigit = true) ∧
        NoDigit rest := by
  constructor
  · intro h
    obtain ⟨ds, left, rfl, digits, stop, run, behind⟩ := run_split Char.isDigit cs
    rw [run, behind] at h
    split at h
    · cases h
    · rename_i some
      cases h
      exact ⟨ds, rfl, rfl, by simpa using some, digits, stop⟩
  · rintro ⟨ds, rfl, rfl, some, digits, stop⟩
    obtain ⟨run, behind⟩ := Text.run_append digits stop
    rw [run, behind, if_neg (by simpa using some)]

theorem signedDigits?_eq_some_iff :
    signedDigits? cs = some (whole, rest) ↔
      cs = whole ++ rest ∧ SignedDigits whole ∧ NoDigit rest := by
  unfold signedDigits?
  split
  rename_i sign digits split
  rw [digits_iff]
  split at split
  · obtain ⟨rfl, rfl⟩ := Prod.mk.inj split
    constructor
    · rintro ⟨ds, rfl, rfl, some, digits, stop⟩
      exact ⟨rfl, ⟨ds, .inr rfl, some, digits⟩, stop⟩
    · rintro ⟨split, ⟨ds, rfl | rfl, some, digits⟩, stop⟩
      · cases whole with
        | nil => exact absurd rfl some
        | cons d ds =>
          obtain ⟨rfl, -⟩ := List.cons.inj split
          cases digits '-' List.mem_cons_self
      · exact ⟨ds, rfl, (List.cons.inj split).2, some, digits, stop⟩
  · rename_i unsigned
    obtain ⟨rfl, rfl⟩ := Prod.mk.inj split
    constructor
    · rintro ⟨ds, rfl, rfl, some, digits, stop⟩
      exact ⟨rfl, ⟨_, .inl rfl, some, digits⟩, stop⟩
    · rintro ⟨rfl, ⟨ds, rfl | rfl, some, digits⟩, stop⟩
      · exact ⟨whole, rfl, rfl, some, digits, stop⟩
      · exact absurd rfl (unsigned _)

/-- What is left behind digits is not read if they are a number without a point. -/
theorem integer_reads (h : integer whole cs = .tokens ts rest) :
    cs = rest ∧ (∃ n, ts = [(.int n, whole)]) ∧ ∀ v, integer whole v = .tokens ts v := by
  unfold integer at h ⊢
  split at h <;> cases h
  exact ⟨rfl, ⟨_, rfl⟩, fun _ => rfl⟩

theorem pointed_reads {fraction : List Char}
    (h : pointed afterDot whole fraction cs = .tokens ts rest) :
    cs = rest ∧ ((∃ x, ts = [(.float x, whole ++ '.' :: fraction)]) ∨
      ∃ a b, ts = [(.int a, whole), (.dot, ['.']), (.int b, fraction)]) ∧
      ∀ v, pointed afterDot whole fraction v = .tokens ts v := by
  unfold pointed at h ⊢
  split at h
  · rename_i dot
    split at h <;> cases h
    exact ⟨rfl, .inr ⟨_, _, rfl⟩, fun _ => by rw [if_pos dot]⟩
  · rename_i plain
    split at h <;> cases h
    exact ⟨rfl, .inl ⟨_, rfl⟩, fun _ => by rw [if_neg plain]⟩

/-! ## Steps -/

/-- A text does not go on with tokens: with a name, with digits, or with a point behind an integer
that would make it another number. -/
def Follows : List (Token × List Char) → List Char → Prop
  | [(.ident _, _)], cs => NoName cs
  | [(.int _, _)], cs => NoDigit cs ∧ ∀ r, cs = '.' :: r → NoDigit r
  | [(.float _, _)], cs => NoDigit cs
  | [_, _, _], cs => NoDigit cs
  | _, _ => True

namespace Follows

/-- A part from the start of a text does not go on with tokens either. -/
theorem cut (h : Follows ts (cs ++ u)) : Follows ts cs := by
  revert h
  unfold Follows
  split
  · exact head_cut
  · exact fun h => ⟨head_cut h.1, fun r e => head_cut (h.2 (r ++ u) (by rw [e]; rfl))⟩
  · exact head_cut
  · exact head_cut
  · exact id

/-- A bar does not go on with tokens. -/
theorem bar (h : Follows ts cs) (u : List Char) : Follows ts (cs ++ '|' :: u) := by
  have name : NoName ('|' :: u) := by
    rintro _ ⟨⟩
    decide
  revert h
  unfold Follows
  split
  · exact fun h => head_append h name
  · rintro ⟨digit, point⟩
    refine ⟨head_append digit name.noDigit, fun r e => ?_⟩
    cases cs with
    | nil => cases e
    | cons c cs =>
      obtain ⟨rfl, rfl⟩ := List.cons.inj e
      exact head_append (point cs rfl) name.noDigit
  · exact fun h => head_append h name.noDigit
  · exact fun h => head_append h name.noDigit
  · exact id

end Follows

/-- How a token is spelled that can be spelled in one way only. -/
def spelling? : Token → Option (List Char)
  | .ident name => some name.toList
  | .equals => some ['=']
  | .pipe => some ['|']
  | .colon => some [':']
  | .dot => some ['.']
  | _ => none

/-- What the first character of a text says about a step. -/
inductive Lead (c : Char) : Prop where
  | gap (is : isGap c = true) (read : ∀ afterDot cs, step afterDot c cs = .gap c cs)
  | sign (t : Token) (spelt : spelling? t = some [c]) (free : ∀ cs, Follows [(t, [c])] cs)
      (read : ∀ afterDot cs, step afterDot c cs = .tokens [(t, [c])] cs)
  | name (read : ∀ afterDot cs, step afterDot c cs =
      .tokens [(.ident (String.ofList (c :: cs.takeWhile isIdentPart)),
        c :: cs.takeWhile isIdentPart)] (cs.dropWhile isIdentPart))
  | quote
      (read : ∀ {body rest cs} afterDot, quoted c cs = .ok (body, rest) → step afterDot c cs =
        .tokens [(.string (String.ofList (unescape body)), c :: (body ++ [c]))] rest)
      (fails : ∀ {part cs} afterDot, quoted c cs = .error part →
        step afterDot c cs = .fail (c :: part))
  | number
      (read : ∀ {whole rest cs} afterDot, signedDigits? (c :: cs) = some (whole, rest) →
        step afterDot c cs = number afterDot whole rest)
      (fails : ∀ {cs} afterDot, signedDigits? (c :: cs) = none → step afterDot c cs = .fail [c])

theorem lead (c : Char) : Lead c := by
  by_cases gap : isGap c = true
  · exact .gap gap fun _ _ => by rw [step, if_pos gap]
  by_cases equals : c = '='
  · subst equals
    exact .sign .equals rfl (fun _ => trivial) fun _ _ => rfl
  by_cases pipe : c = '|'
  · subst pipe
    exact .sign .pipe rfl (fun _ => trivial) fun _ _ => rfl
  by_cases colon : c = ':'
  · subst colon
    exact .sign .colon rfl (fun _ => trivial) fun _ _ => rfl
  by_cases dot : c = '.'
  · subst dot
    exact .sign .dot rfl (fun _ => trivial) fun _ _ => rfl
  have plain : isGap c = false ∧ c ≠ '=' ∧ c ≠ '|' ∧ c ≠ ':' ∧ c ≠ '.' :=
    ⟨Bool.eq_false_iff.2 gap, equals, pipe, colon, dot⟩
  by_cases ident : isIdentStart c = true
  · exact .name fun _ _ => by simp only [step, plain, ident, Bool.false_eq_true, if_true, if_false]
  by_cases quote : c = '"' ∨ c = '\''
  · refine .quote (fun _ read => ?_) fun _ failed => ?_
    · simp only [step, plain, ident, quote, read, Bool.false_eq_true, if_true, if_false]
    · simp only [step, plain, ident, quote, failed, Bool.false_eq_true, if_true, if_false]
  · refine .number (fun _ read => ?_) fun _ failed => ?_
    · simp only [step, plain, ident, quote, read, Bool.false_eq_true, if_false]
    · simp only [step, plain, ident, quote, failed, Bool.false_eq_true, if_false]

theorem number_plain (single : ∀ r, cs = '.' :: r → NoDigit r) :
    number afterDot whole cs = integer whole cs := by
  rw [number.eq_def]
  split
  · rename_i after
    have none := (Text.run_append (List.forall_mem_nil _) (single after rfl)).1
    rw [List.nil_append] at none
    rw [none, List.isEmpty_nil, if_pos rfl]
  · rfl

theorem number_reads (stop : NoDigit cs) (h : number afterDot whole cs = .tokens ts rest) :
    ∃ part, cs = part ++ rest ∧ Follows ts rest ∧
      ∀ v, Follows ts v → NoDigit (part ++ v) ∧
        number afterDot whole (part ++ v) = .tokens ts v := by
  have plain (single : ∀ r, cs = '.' :: r → NoDigit r)
      (h : integer whole cs = .tokens ts rest) :
      ∃ part, cs = part ++ rest ∧ Follows ts rest ∧
        ∀ v, Follows ts v → NoDigit (part ++ v) ∧
          number afterDot whole (part ++ v) = .tokens ts v := by
    obtain ⟨rfl, ⟨n, rfl⟩, reads⟩ := integer_reads h
    refine ⟨[], rfl, ⟨stop, single⟩, fun v follows => ⟨follows.1, ?_⟩⟩
    rw [List.nil_append, number_plain follows.2, reads]
  rw [number.eq_def] at h
  split at h
  · rename_i after
    obtain ⟨ds, left, rfl, digits, behind, run, drop⟩ := run_split Char.isDigit after
    rw [run, drop] at h
    split at h
    · rename_i none
      obtain rfl := List.isEmpty_iff.1 none
      refine plain ?_ h
      rintro _ ⟨⟩
      exact behind
    · rename_i some
      obtain ⟨rfl, shape, reads⟩ := pointed_reads h
      have follows (v : List Char) : Follows ts v ↔ NoDigit v := by
        obtain ⟨x, rfl⟩ | ⟨a, b, rfl⟩ := shape <;> exact Iff.rfl
      refine ⟨'.' :: ds, rfl, (follows _).2 behind, fun v free => ⟨?_, ?_⟩⟩
      · rintro _ ⟨⟩
        decide
      · obtain ⟨run, drop⟩ := Text.run_append digits ((follows v).1 free)
        rw [List.cons_append, number, run, drop, if_neg some, reads]
  · rename_i other
    exact plain (fun r e => absurd e (other r)) h

theorem number_shape (h : number afterDot whole cs = .tokens ts rest) :
    (∃ n, ts = [(.int n, whole)]) ∨ (∃ x w, ts = [(.float x, w)] ∧ w ≠ []) ∨
      ∃ a b w, ts = [(.int a, whole), (.dot, ['.']), (.int b, w)] ∧ w ≠ [] := by
  rw [number.eq_def] at h
  split at h
  · split at h
    · exact .inl (integer_reads h).2.1
    · rename_i some
      obtain ⟨-, ⟨x, rfl⟩ | ⟨a, b, rfl⟩, -⟩ := pointed_reads h
      · exact .inr (.inl ⟨x, _, rfl, by simp⟩)
      · exact .inr (.inr ⟨a, b, _, rfl, by simpa using some⟩)
  · exact .inl (integer_reads h).2.1

theorem quoted_behind {body : List Char} (h : quoted q cs = .ok (body, rest)) (u : List Char) :
    quoted q (body ++ q :: u) = .ok (body, u) := by
  fun_induction quoted q cs generalizing body with
  | case1 => cases h
  | case2 =>
    cases h
    rw [List.nil_append, quoted.eq_def]
    simp only [if_pos]
  | case3 => cases h
  | case4 => cases h
  | case5 d r other b r' hb line ih =>
    cases h
    rw [List.cons_append, List.cons_append, quoted, if_neg other, if_pos rfl]
    simp only [if_neg line, ih hb]
  | case6 => cases h
  | case7 c r other plain b r' hb ih =>
    cases h
    rw [List.cons_append, quoted.eq_def]
    simp only [if_neg other, if_neg plain, ih hb]
  | case8 => cases h

/-- A step reads a part of the text that what follows does not go on with, and it reads the same
before all texts of which that is so. -/
theorem step_reads (h : step afterDot c cs = .tokens ts rest) :
    ∃ w, cs = w ++ rest ∧ Follows ts rest ∧
      ∀ v, Follows ts v → step afterDot c (w ++ v) = .tokens ts v := by
  cases lead c with
  | gap _ read =>
    rw [read] at h
    cases h
  | sign t _ free read =>
    rw [read] at h
    cases h
    exact ⟨[], rfl, free _, fun v _ => read _ _⟩
  | name read =>
    obtain ⟨w, left, rfl, parts, stop, run, drop⟩ := run_split isIdentPart cs
    rw [read, run, drop] at h
    cases h
    refine ⟨w, rfl, stop, fun v free => ?_⟩
    obtain ⟨run, drop⟩ := Text.run_append parts free
    rw [read, run, drop]
  | quote read fails =>
    cases body : quoted c cs with
    | error part =>
      rw [fails _ body] at h
      cases h
    | ok split =>
      obtain ⟨text, left⟩ := split
      rw [read _ body] at h
      cases h
      have split := quoted_eq_ok body
      rw [List.append_cons] at split
      refine ⟨text ++ [c], split, trivial, fun v _ => read _ ?_⟩
      rw [List.append_assoc, List.singleton_append, quoted_behind body]
  | number read fails =>
    cases digits : signedDigits? (c :: cs) with
    | none =>
      rw [fails _ digits] at h
      cases h
    | some split =>
      obtain ⟨whole, left⟩ := split
      rw [read _ digits] at h
      obtain ⟨split, signed, stop⟩ := signedDigits?_eq_some_iff.1 digits
      obtain ⟨part, rfl, follows, reads⟩ := number_reads stop h
      obtain ⟨ds, rfl⟩ := signed.starts split
      rw [List.cons_append, ← List.append_assoc] at split
      refine ⟨ds ++ part, (List.cons.inj split).2, follows, fun v free => ?_⟩
      obtain ⟨free, again⟩ := reads v free
      have digits : signedDigits? (c :: (ds ++ (part ++ v))) = some (c :: ds, part ++ v) :=
        signedDigits?_eq_some_iff.2 ⟨rfl, signed, free⟩
      rw [List.append_assoc, read _ digits, again]

/-- A step reads the same without what it leaves, or without a part of that from its end. -/
theorem step_cut (h : step afterDot c (cs ++ u) = .tokens ts (rest ++ u)) :
    step afterDot c cs = .tokens ts rest := by
  obtain ⟨w, whole, follows, reads⟩ := step_reads h
  rw [← List.append_assoc] at whole
  rw [List.append_cancel_right whole]
  exact reads rest follows.cut

/-- A step reads the same before a bar. -/
theorem step_before (h : step afterDot c cs = .tokens ts rest) (u : List Char) :
    step afterDot c (cs ++ '|' :: u) = .tokens ts (rest ++ '|' :: u) := by
  obtain ⟨w, rfl, follows, reads⟩ := step_reads h
  rw [List.append_assoc]
  exact reads _ (follows.bar u)

/-- What a step reads is the first character and a part of what follows it. -/
theorem step_split (read : step afterDot c cs = .tokens ts rest) :
    ∃ w, spelled ts = c :: w ∧ cs = w ++ rest := by
  obtain ⟨split, nonempty⟩ := step_tokens read
  cases word : spelled ts with
  | nil => exact absurd word nonempty
  | cons d w =>
    rw [word] at split
    obtain ⟨rfl, rfl⟩ := List.cons.inj split
    exact ⟨w, rfl, rfl⟩

/-- A step reads one token, or two keys and the dot between them. -/
theorem step_shape (h : step afterDot c cs = .tokens ts rest) :
    (∃ t w, ts = [(t, w)] ∧ w ≠ [] ∧ ∀ s ∈ spelling? t, w = s) ∨
      ∃ a b w w', ts = [(.int a, w), (.dot, ['.']), (.int b, w')] ∧ w ≠ [] ∧ w' ≠ [] := by
  cases lead c with
  | gap _ read =>
    rw [read] at h
    cases h
  | sign t spelt _ read =>
    rw [read] at h
    cases h
    exact .inl ⟨t, [c], rfl, List.cons_ne_nil _ _, by simp [spelt]⟩
  | name read =>
    rw [read] at h
    cases h
    exact .inl ⟨_, _, rfl, List.cons_ne_nil _ _, by simp [spelling?]⟩
  | quote read fails =>
    cases body : quoted c cs with
    | error part =>
      rw [fails _ body] at h
      cases h
    | ok split =>
      rw [read _ body] at h
      cases h
      exact .inl ⟨_, _, rfl, List.cons_ne_nil _ _, by simp [spelling?]⟩
  | number read fails =>
    cases digits : signedDigits? (c :: cs) with
    | none =>
      rw [fails _ digits] at h
      cases h
    | some split =>
      rw [read _ digits] at h
      have some := (signedDigits?_eq_some digits).2
      obtain ⟨n, rfl⟩ | ⟨x, w, rfl, spelt⟩ | ⟨a, b, w, rfl, spelt⟩ := number_shape h
      · exact .inl ⟨_, _, rfl, some, by simp [spelling?]⟩
      · exact .inl ⟨_, _, rfl, spelt, by simp [spelling?]⟩
      · exact .inr ⟨a, b, _, w, rfl, some, spelt⟩

end SlotTemplate.Argument
