import SlotTemplate.Proofs.Argument.Keys
import SlotTemplate.Proofs.Printing.Markup

/-!
# Printed expressions as tokens

* `Lexes`: a text is read as tokens, wherever it stands;
* `IsKey.read`, `Lexes.keys`: the keys of a lookup are read as their tokens;
* `Expr.lexes`, `Argument.lexes_all`: printed expressions and arguments are read as their tokens.
-/

namespace SlotTemplate

open Argument Grammar

/-! ## Tokens -/

def Value.tokens : Value → List Token
  | .string s => [.string s]
  | .int n => [.int n]
  | .bool b => [.ident (if b then "True" else "False")]
  | _ => [.ident "None"]

/-- The token of a key, which is an index if it is a numeral. -/
def keyToken (k : String) : Token := (Int64.ofText? k.toList).elim (.ident k) .int

def keyTokens (ks : List String) : List Token := ks.flatMap fun k => [.dot, keyToken k]

theorem keyTokens_cons (k : String) (ks : List String) (ts : List Token) :
    keyTokens (k :: ks) ++ ts = .dot :: keyToken k :: (keyTokens ks ++ ts) := by
  simp [keyTokens]

def Primary.tokens : Primary → List Token
  | .literal v => v.tokens
  | .lookup name keys => .ident name :: keyTokens keys

def Filter.tokens (f : Filter) : List Token :=
  .pipe :: .ident f.kind.name :: f.kind.argument?.elim [] fun p => .colon :: p.tokens

def Expr.tokens (e : Expr) : List Token := e.primary.tokens ++ e.filters.flatMap Filter.tokens

def Argument.tokens (a : Argument) : List Token := .ident a.name :: .equals :: a.value.tokens

namespace Argument

/-- A text is read as tokens, wherever it stands. -/
def Lexes (afterDot : Bool) (cs : List Char) (ts : List Token) : Prop :=
  ∀ pos, ∃ placed, lexFrom pos afterDot cs = .ok placed ∧ placed.map Prod.fst = ts

theorem placeTokens_fst (pos : Nat) (ws : List (Token × List Char)) :
    (placeTokens pos ws).map Prod.fst = ws.map Prod.fst := by
  induction ws generalizing pos with
  | nil => rfl
  | cons w ws ih => rw [placeTokens, List.map_cons, List.map_cons, ih]

end Argument

namespace Quoting

variable (q : Quoting)

/-- A character has a backslash that changes nothing, or it needs none. -/
theorem char_cases (c : Char) :
    q.char c = ['\\', c] ∧ c ≠ 'n' ∧ c ≠ 't' ∧ c ≠ '\n' ∨
      q.char c = [c] ∧ c ≠ q.mark ∧ c ≠ '\\' := by
  by_cases h : q.escapes c = true
  · have other {d : Char} (hd : d ∈ ['n', 't', '\n']) : c ≠ d := by
      rintro rfl
      rw [q.bare c hd] at h
      cases h
    exact .inl ⟨by simp [char, h], other (by simp), other (by simp), other (by simp)⟩
  · refine .inr ⟨by simp [char, h], ?_, ?_⟩
    · rintro rfl
      exact h q.mark_escaped
    · rintro rfl
      exact h q.backslash_escaped

theorem quoted_char (cs rest : List Char) :
    quoted q.mark (cs.flatMap q.char ++ q.mark :: rest) = .ok (cs.flatMap q.char, rest) := by
  have mark : '\\' ≠ q.mark := by
    rcases q.isMark with h | h <;> simp [h]
  induction cs with
  | nil =>
    rw [List.flatMap_nil, List.nil_append, quoted.eq_def]
    simp only [if_pos]
  | cons c cs ih =>
    rw [List.flatMap_cons, List.append_assoc]
    rcases q.char_cases c with ⟨e, -, -, hc⟩ | ⟨e, hm, hb⟩
    · rw [e, List.cons_append, quoted.eq_def]
      simp only [if_neg mark, if_pos, if_neg hc, ih, List.cons_append, List.nil_append]
    · rw [e, List.singleton_append, quoted.eq_def]
      simp only [if_neg hm, if_neg hb, ih, List.singleton_append]

theorem unescape_char (cs : List Char) : unescape (cs.flatMap q.char) = cs := by
  induction cs with
  | nil => rfl
  | cons c cs ih =>
    rcases q.char_cases c with ⟨e, hn, ht, -⟩ | ⟨e, -, hb⟩
    · rw [List.flatMap_cons, e, List.cons_append, List.singleton_append, unescape, ih]
      · exact hn
      · exact ht
    · rw [List.flatMap_cons, e, List.singleton_append, unescape, ih]
      all_goals
        intros
        simp_all

end Quoting

/-! ## Keys -/

theorem keyToken_name {k : String} (h : isIdentifier k = true) : keyToken k = .ident k := by
  have unread : Int64.ofText? k.toList = none := by
    have first := noDigit_of_identifier h []
    obtain ⟨c, cs, spelled, start, -⟩ := exists_of_isIdentifier h
    rw [List.append_nil, spelled] at first
    have digit : c.isDigit = false := first c rfl
    rw [spelled, Int64.ofText?]
    · simp [Digits.value?, digit]
    · rintro _ ⟨⟩
      cases start
  rw [keyToken, unread]
  rfl

theorem keyToken_index (n : Int64) : keyToken (toString n.toInt) = .int n := by
  have read : Int64.ofText? (toString n.toInt).toList = some n := Int64.ofText?_numeral n
  rw [keyToken, read]
  rfl

/-- A key is read as its token. -/
theorem IsKey.read {k : String} (h : IsKey k) :
    ∃ key, Key.read? k = some key ∧ key.token = keyToken k := by
  rcases h with name | ⟨n, nonneg, rfl⟩
  · exact ⟨.name k, if_pos name, (keyToken_name name).symm⟩
  · have value : Int64.ofText? (toString n.toInt).toList = some n := Int64.ofText?_numeral n
    refine ⟨.index n, ?_, (keyToken_index n).symm⟩
    rw [(isIndex_numeral nonneg).read?_eq, value]
    rfl

theorem tokens_of_read {ks : List String} {forms : List KeyForm} (hk : ∀ k ∈ ks, IsKey k)
    (each : ks.map Key.read? = forms.map fun form => some form.key) :
    (forms.flatMap KeyForm.tokens).map Prod.fst = keyTokens ks := by
  induction ks generalizing forms with
  | nil =>
    obtain rfl := List.map_eq_nil_iff.1 each.symm
    rfl
  | cons k ks ih =>
    obtain ⟨first, others⟩ := List.forall_mem_cons.1 hk
    obtain ⟨form, forms, rfl, own, behind⟩ := List.map_eq_cons_iff.1 each.symm
    obtain ⟨key, read, token⟩ := first.read
    rw [read] at own
    obtain rfl := Option.some.inj own
    have front : keyTokens (k :: ks) = [.dot, keyToken k] ++ keyTokens ks := rfl
    rw [front, ← token, List.flatMap_cons, List.map_append, ih others behind.symm]
    rfl

/-! ## Texts and their tokens -/

namespace Argument

/-- An integer as it is written. -/
theorem signed_numeral (n : Int64) : SignedDigits (Int64.numeral n) := by
  obtain ⟨ds, nonempty, digits, form⟩ := Int64.numeral_form n
  exact ⟨ds, form.imp And.right And.right, nonempty, digits⟩

namespace Lexes

variable {afterDot : Bool} {cs rest : List Char} {ts : List Token}

theorem nil : Lexes afterDot [] [] := fun pos => ⟨[], by rw [lexFrom], rfl⟩

theorem of_step {c : Char} (ws : List (Token × List Char))
    (read : step afterDot c cs = .tokens ws rest) (h : Lexes (endsWithDot ws) rest ts) :
    Lexes afterDot (c :: cs) (ws.map Prod.fst ++ ts) := by
  intro pos
  obtain ⟨placed, lexed, rfl⟩ := h (pos + Text.byteSize (spelled ws))
  refine ⟨placeTokens pos ws ++ placed, ?_, by rw [List.map_append, placeTokens_fst]⟩
  rw [lexFrom_tokens read, lexed]
  rfl

theorem gap (h : Lexes afterDot cs ts) : Lexes afterDot (' ' :: cs) ts := by
  intro pos
  obtain ⟨placed, lexed, rfl⟩ := h (pos + ' '.utf8Size)
  refine ⟨placed, ?_, rfl⟩
  have read : step afterDot ' ' cs = .gap ' ' cs := by simp [step, isGap]
  rw [lexFrom_gap read, lexed]

theorem equals (h : Lexes false cs ts) : Lexes afterDot ('=' :: cs) (.equals :: ts) :=
  of_step [(.equals, ['='])] (by simp [step, isGap]) h

theorem pipe (h : Lexes false cs ts) : Lexes afterDot ('|' :: cs) (.pipe :: ts) :=
  of_step [(.pipe, ['|'])] (by simp [step, isGap]) h

theorem colon (h : Lexes false cs ts) : Lexes afterDot (':' :: cs) (.colon :: ts) :=
  of_step [(.colon, [':'])] (by simp [step, isGap]) h

theorem ident {name : String} (hn : isIdentifier name = true) (stop : NoName rest)
    (h : Lexes false rest ts) : Lexes afterDot (name.toList ++ rest) (.ident name :: ts) := by
  obtain ⟨c, cs, e, read⟩ := step_name afterDot hn stop
  rw [e]
  exact of_step [(.ident name, name.toList)] read h

theorem string {q : Quoting} {s : String} (h : Lexes false rest ts) :
    Lexes afterDot (q.literal s ++ rest) (.string s :: ts) := by
  have text : s = String.ofList (unescape (s.toList.flatMap q.char)) := by
    rw [q.unescape_char, String.ofList_toList]
  rw [Quoting.literal, List.cons_append, List.append_assoc, List.singleton_append]
  refine of_step [(.string s, q.mark :: (s.toList.flatMap q.char ++ [q.mark]))] ?_ h
  have read := q.quoted_char s.toList rest
  rcases q.isMark with mark | mark <;> rw [mark] at read ⊢ <;>
    simp [step, isGap, isIdentStart, read, ← text]

/-- A number is read up to a point that is followed by digits. -/
theorem int {n : Int64} (stop : NoDigit rest) (single : ∀ r, rest = '.' :: r → NoDigit r)
    (h : Lexes false rest ts) : Lexes afterDot (Int64.numeral n ++ rest) (.int n :: ts) := by
  obtain ⟨c, cs, e, read⟩ := step_signed afterDot (signed_numeral n) stop
  rw [e]
  refine of_step [(.int n, Int64.numeral n)] ?_ h
  rw [read, number_plain single, integer, Int64.ofText?_numeral]

/-- The keys of a lookup are read one by one. -/
theorem keys {ks : List String} (hk : ∀ k ∈ ks, IsKey k) (stop : Stopped rest)
    (h : Lexes false rest ts) : Lexes false (spellKeys ks ++ rest) (keyTokens ks ++ ts) := by
  intro pos
  have ends := keysEnd_lexFrom pos (fun k member => (hk k member).segment) stop
  generalize lexFrom pos false (spellKeys ks ++ rest) = r at ends ⊢
  cases ends with
  | @read forms each _ =>
    obtain ⟨placed, behind, rfl⟩ := h (pos + Text.byteSize (spellKeys ks))
    refine ⟨forms.flatMap KeyForm.tokens ++ placed, ?_, ?_⟩
    · rw [behind]
      rfl
    · rw [List.map_append, tokens_of_read hk each]
  | refused split _ blame =>
    obtain ⟨s, member, none⟩ := blame
    have own : s ∈ ks := by
      rw [split]
      exact List.mem_append_right _ (List.mem_append_left _ member)
    obtain ⟨key, read, -⟩ := (hk s own).read
    rw [read] at none
    cases none

end Lexes

end Argument

/-! ## Expressions -/

section

variable {q : Quoting} {afterDot : Bool} {rest : List Char} {ts : List Token}

theorem Value.lexes {v : Value} (printable : v.Printable) (stop : Stopped rest)
    (h : Lexes false rest ts) : Lexes afterDot (v.spell q ++ rest) (v.tokens ++ ts) := by
  cases v with
  | null =>
    have word : isIdentifier "None" = true := by decide
    exact .ident word stop.1 h
  | bool b => cases b <;> exact .ident (by decide) stop.1 h
  | int n => exact .int stop.1.noDigit (fun r e => absurd e (stop.2 r)) h
  | string s => exact .string h
  | _ => cases printable

theorem Primary.lexes {p : Primary} (printable : p.Printable) (stop : Stopped rest)
    (h : Lexes false rest ts) : Lexes afterDot (p.spell q ++ rest) (p.tokens ++ ts) := by
  cases p with
  | literal v => exact Value.lexes printable stop h
  | lookup name keys =>
    obtain ⟨identifier, -, -, each⟩ := printable
    have more := Lexes.keys each stop h
    rw [Primary.spell, List.append_assoc]
    exact .ident identifier (stop.noName_keys keys) more

theorem FilterKind.name_identifier (kind : FilterKind) : isIdentifier kind.name = true := by
  cases kind with
  | default => exact (by decide : isIdentifier "default" = true)
  | _ => decide

theorem Filter.lexes {f : Filter} (printable : ∀ p, f.kind.argument? = some p → p.Printable)
    (stop : Stopped rest) (h : Lexes false rest ts) :
    Lexes afterDot (f.spell q ++ rest) (f.tokens ++ ts) := by
  have name := f.kind.name_identifier
  rw [Filter.spell, Filter.tokens]
  cases argument : f.kind.argument? with
  | none =>
    simp only [Option.elim_none, List.append_nil, List.cons_append, List.nil_append]
    exact .pipe (.ident name stop.1 h)
  | some p =>
    have more : Lexes false (p.spell q ++ rest) (p.tokens ++ ts) :=
      Primary.lexes (printable p argument) stop h
    simp only [Option.elim_some, List.append_assoc, List.cons_append]
    exact .pipe (.ident name (stopped_cons (by decide) (by decide) _).1 (.colon more))

theorem Filter.stopped (stop : Stopped rest) (fs : List Filter) :
    Stopped (fs.flatMap (Filter.spell q) ++ rest) := by
  cases fs with
  | nil => exact stop
  | cons f fs => exact stopped_cons (by decide) (by decide) _

theorem Filter.lexes_all {fs : List Filter}
    (printable : ∀ f ∈ fs, ∀ p, f.kind.argument? = some p → p.Printable) (stop : Stopped rest)
    (h : Lexes false rest ts) :
    Lexes false (fs.flatMap (Filter.spell q) ++ rest) (fs.flatMap Filter.tokens ++ ts) := by
  induction fs with
  | nil => exact h
  | cons f fs ih =>
    obtain ⟨first, others⟩ := List.forall_mem_cons.1 printable
    rw [List.flatMap_cons, List.flatMap_cons, List.append_assoc, List.append_assoc]
    exact Filter.lexes first (Filter.stopped stop fs) (ih others)

/-- A printed expression is read as its tokens. -/
theorem Expr.lexes {e : Expr} (printable : e.Printable) (stop : Stopped rest)
    (h : Lexes false rest ts) : Lexes afterDot (e.spell q ++ rest) (e.tokens ++ ts) := by
  have filters := Filter.lexes_all (q := q) printable.filters stop h
  rw [Expr.spell, Expr.tokens, List.append_assoc, List.append_assoc]
  exact Primary.lexes printable.primary (Filter.stopped stop e.filters) filters

theorem Expr.lexes_alone {e : Expr} (printable : e.Printable) :
    Lexes false (e.spell q) e.tokens := by
  have whole : Lexes false (e.spell q ++ []) (e.tokens ++ []) :=
    Expr.lexes printable stopped_nil .nil
  rwa [List.append_nil, List.append_nil] at whole

/-- Printed arguments are read as their tokens. -/
theorem Argument.lexes_all {as : List Argument}
    (printable : ∀ a ∈ as, isIdentifier a.name = true ∧ a.value.Printable) :
    Lexes false (as.flatMap (Argument.spell q)) (as.flatMap Argument.tokens) := by
  induction as with
  | nil => exact .nil
  | cons a as ih =>
    obtain ⟨⟨name, value⟩, others⟩ := List.forall_mem_cons.1 printable
    have stop : Stopped (as.flatMap (Argument.spell q)) := by
      cases as with
      | nil => exact stopped_nil
      | cons => exact stopped_cons (by decide) (by decide) _
    have more : Lexes false (a.value.spell q ++ as.flatMap (Argument.spell q))
        (a.value.tokens ++ as.flatMap Argument.tokens) := Expr.lexes value stop (ih others)
    simp only [List.flatMap_cons, Argument.spell, Argument.tokens, List.cons_append,
      List.append_assoc]
    exact .gap (.ident name (stopped_cons (by decide) (by decide) _).1 (.equals more))

end

end SlotTemplate
