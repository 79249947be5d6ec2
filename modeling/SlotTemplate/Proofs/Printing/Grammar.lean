import SlotTemplate.Proofs.Argument.Checks
import SlotTemplate.Proofs.Printing.Spelling

/-!
# Printed arguments are read back

* `expression_read`: the tokens of an expression are read as that expression, whatever follows it;
* `Tag.condition_spells`, `Tag.loopHeader_spells`, `Tag.slotName_spells`,
  `Tag.invocationArguments_spells`, `Expr.ofVariable_spell`: what is written in a tag or variable is
  read from it, up to places.
-/

namespace SlotTemplate

open Argument

/-- What is written of an expression. -/
def Expr.outline (e : Expr) : Primary × List (String × Option Primary) :=
  (e.primary, e.filters.map fun f => (f.kind.name, f.kind.argument?))

namespace Grammar

/-- Tokens that do not go on with an expression. -/
def Ended (us : List Token) : Prop := ∀ t ∈ us.head?, t ≠ .dot ∧ t ≠ .pipe ∧ t ≠ .colon

theorem ended_nil : Ended [] := by rintro _ ⟨⟩

theorem ended_ident (name : String) (us : List Token) : Ended (.ident name :: us) := by
  rintro _ ⟨⟩
  exact ⟨nofun, nofun, nofun⟩

def Draft.outline (d : Draft) : Primary × List (String × Option Primary) :=
  (d.primary, d.calls.map fun call => (call.name, call.argument))

variable {ts : List Placed} {us : List Token}

theorem placed_cons {t : Token} (h : ts.map Prod.fst = t :: us) :
    ∃ span rest, ts = (t, span) :: rest ∧ rest.map Prod.fst = us := by
  obtain ⟨⟨t', span⟩, rest, rfl, rfl, hr⟩ := List.map_eq_cons_iff.1 h
  exact ⟨span, rest, rfl, hr⟩

theorem keys_read {ks : List String} (stop : Nat) (each : ∀ k ∈ ks, IsKey k)
    (behind : ∀ us', us ≠ .dot :: us') (spelled : ts.map Prod.fst = keyTokens ks ++ us) :
    ∃ r, keys stop ts = .ok r ∧ r.value = ks ∧ r.rest.map Prod.fst = us := by
  induction ks generalizing ts stop with
  | nil =>
    refine ⟨⟨[], stop, ts, [.token .dot]⟩, ?_, rfl, spelled⟩
    have other (span : Span) (rest : List Placed) : ts ≠ (.dot, span) :: rest := by
      rintro rfl
      exact behind _ spelled.symm
    rw [keys.eq_def]
    split
    · exact absurd rfl (other _ _)
    · exact absurd rfl (other _ _)
    · exact absurd rfl (other _ _)
    · rfl
  | cons k ks ih =>
    obtain ⟨key, others⟩ := List.forall_mem_cons.1 each
    rw [keyTokens_cons] at spelled
    obtain ⟨_, _, rfl, afterDot⟩ := placed_cons spelled
    obtain ⟨span, rest, rfl, afterKey⟩ := placed_cons afterDot
    obtain ⟨r, hr, rfl, remaining⟩ := ih span.stop others afterKey
    refine ⟨{ r with value := k :: r.value }, ?_, rfl, remaining⟩
    rcases key with name | ⟨n, -, rfl⟩
    · rw [keyToken_name name, keys, hr]
      rfl
    · rw [keyToken_index, keys, hr]
      rfl

theorem named_eq {name : String} {ks : List String}
    (bare : ks = [] → name ∉ ["True", "False", "None"]) : named name ks = .lookup name ks := by
  cases ks with
  | cons k ks => rfl
  | nil =>
    have other := bare rfl
    simp only [List.mem_cons, List.not_mem_nil, or_false, not_or] at other
    rw [named, List.isEmpty_nil, if_pos rfl]
    · exact other.1
    · exact other.2.1
    · exact other.2.2

theorem primary_read {p : Primary} (printable : p.Printable) (behind : ∀ us', us ≠ .dot :: us')
    (spelled : ts.map Prod.fst = p.tokens ++ us) :
    ∃ r, primary ts = .ok r ∧ r.value = p ∧ r.rest.map Prod.fst = us := by
  have constant {name : String} {p : Primary} (same : named name [] = p)
      (spelled : ts.map Prod.fst = .ident name :: us) :
      ∃ r, primary ts = .ok r ∧ r.value = p ∧ r.rest.map Prod.fst = us := by
    obtain ⟨span, rest, rfl, after⟩ := placed_cons spelled
    obtain ⟨r, hr, none, remaining⟩ :=
      keys_read span.stop (List.forall_mem_nil IsKey) behind after
    refine ⟨⟨named name r.value, r.stop, r.rest, r.next⟩, ?_, by rw [none, same], remaining⟩
    rw [primary, hr]
    rfl
  cases p with
  | literal v =>
    cases v with
    | null => exact constant rfl spelled
    | bool b => cases b <;> exact constant rfl spelled
    | int n | string s =>
      obtain ⟨span, rest, rfl, after⟩ := placed_cons spelled
      exact ⟨_, rfl, rfl, after⟩
    | _ => cases printable
  | lookup name ks =>
    obtain ⟨-, -, bare, each⟩ := printable
    obtain ⟨span, rest, rfl, after⟩ := placed_cons spelled
    obtain ⟨r, hr, rfl, remaining⟩ := keys_read span.stop each behind after
    refine ⟨⟨named name r.value, r.stop, r.rest, r.next⟩, ?_, named_eq bare, remaining⟩
    rw [primary, hr]
    rfl

theorem filters_read {fs : List Filter} (stop : Nat) (next : List Expectation)
    (printable : ∀ f ∈ fs, ∀ p, f.kind.argument? = some p → p.Printable) (ended : Ended us)
    (spelled : ts.map Prod.fst = fs.flatMap Filter.tokens ++ us) :
    ∃ r, filters stop next ts = .ok r ∧
      r.value.map (fun call => (call.name, call.argument)) =
        fs.map (fun f => (f.kind.name, f.kind.argument?)) ∧ r.rest.map Prod.fst = us := by
  induction fs generalizing ts stop next with
  | nil =>
    have other (span : Span) (rest : List Placed) : ts ≠ (.pipe, span) :: rest := by
      rintro rfl
      have head : .pipe :: rest.map Prod.fst = us := spelled
      subst head
      exact (ended .pipe rfl).2.1 rfl
    exact ⟨⟨[], stop, ts, next ++ [.token .pipe]⟩, filters_end other, rfl, spelled⟩
  | cons f fs ih =>
    obtain ⟨here, others⟩ := List.forall_mem_cons.1 printable
    -- What follows the name or argument of a filter is a bar or the end of the expression.
    have follows (t : Token) (us' : List Token) (e : fs.flatMap Filter.tokens ++ us = t :: us') :
        t ≠ .dot ∧ t ≠ .colon := by
      cases fs with
      | nil =>
        have last : us = t :: us' := e
        subst last
        exact ⟨(ended t rfl).1, (ended t rfl).2.2⟩
      | cons g fs =>
        obtain ⟨rfl, -⟩ := List.cons.inj e
        exact ⟨by rintro ⟨⟩, by rintro ⟨⟩⟩
    rw [List.flatMap_cons, List.append_assoc, Filter.tokens] at spelled
    obtain ⟨bar, _, rfl, afterBar⟩ := placed_cons spelled
    obtain ⟨span, rest, rfl, afterName⟩ := placed_cons afterBar
    cases argument : f.kind.argument? with
    | none =>
      rw [argument] at afterName
      obtain ⟨r, hr, calls, remaining⟩ :=
        ih span.stop [.token .colon] others afterName
      refine ⟨{ r with value := ⟨f.kind.name, none, ⟨bar.start, span.stop⟩⟩ :: r.value }, ?_, ?_,
        remaining⟩
      · rw [filters_named, hr]
        · rfl
        · rintro colon more rfl
          exact (follows _ _ afterName.symm).2 rfl
      · rw [List.map_cons, List.map_cons, calls, argument]
    | some p =>
      rw [argument] at afterName
      obtain ⟨colon, rest, rfl, afterColon⟩ := placed_cons afterName
      obtain ⟨r, hr, rfl, afterArgument⟩ := primary_read (here p argument)
        (fun us' e => (follows _ _ e).1 rfl) afterColon
      obtain ⟨r', hr', calls, remaining⟩ := ih r.stop r.next others afterArgument
      refine ⟨{ r' with value := ⟨f.kind.name, some r.value, ⟨bar.start, r.stop⟩⟩ :: r'.value }, ?_,
        ?_, remaining⟩
      · rw [filters_argument hr, hr']
        rfl
      · rw [List.map_cons, List.map_cons, calls, argument]

/-- The tokens of an expression are read as that expression, whatever follows it. -/
theorem expression_read {e : Expr} (printable : e.Printable) (ended : Ended us)
    (spelled : ts.map Prod.fst = e.tokens ++ us) :
    ∃ r, expression ts = .ok r ∧ r.value.outline = e.outline ∧ r.rest.map Prod.fst = us := by
  have behind (us' : List Token) : e.filters.flatMap Filter.tokens ++ us ≠ .dot :: us' := by
    intro h
    cases hf : e.filters with
    | nil =>
      rw [hf] at h
      have last : us = .dot :: us' := h
      subst last
      exact (ended .dot rfl).1 rfl
    | cons f fs =>
      rw [hf] at h
      cases h
  rw [Expr.tokens, List.append_assoc] at spelled
  obtain ⟨p, hp, value, afterPrimary⟩ := primary_read printable.primary behind spelled
  obtain ⟨r, hr, calls, remaining⟩ :=
    filters_read p.stop p.next printable.filters ended afterPrimary
  refine ⟨⟨⟨p.value, r.value, ⟨startOf ts, r.stop⟩⟩, r.stop, r.rest, r.next⟩, ?_,
    ?_, remaining⟩
  · rw [expression, hp]
    simp only [hr]
    rfl
  · rw [Draft.outline, Expr.outline, value, calls]

/-- Tokens that are those of an expression alone are read to the end. -/
theorem expression_finish {e : Expr} (printable : e.Printable)
    (spelled : ts.map Prod.fst = e.tokens) :
    ∃ r, expression ts = .ok r ∧ r.value.outline = e.outline ∧ finish r = .ok r.value := by
  rw [← List.append_nil e.tokens] at spelled
  obtain ⟨r, hr, draft, remaining⟩ := expression_read printable ended_nil spelled
  exact ⟨r, hr, draft, finish_eq_ok_iff.2 ⟨List.map_eq_nil_iff.1 remaining, rfl⟩⟩

theorem alone_read {e : Expr} (printable : e.Printable) (spelled : ts.map Prod.fst = e.tokens) :
    ∃ d, alone ts = .ok d ∧ d.outline = e.outline := by
  obtain ⟨r, hr, draft, whole⟩ := expression_finish printable spelled
  exact ⟨r.value, by rw [alone, hr]; exact whole, draft⟩

theorem loopHeader_read {name : String} {e : Expr} (printable : e.Printable)
    (spelled : ts.map Prod.fst = .ident name :: .ident "in" :: e.tokens) :
    ∃ span d, loopHeader ts = .ok ((name, span), d) ∧ d.outline = e.outline := by
  obtain ⟨span, _, rfl, afterName⟩ := placed_cons spelled
  obtain ⟨_, rest, rfl, afterIn⟩ := placed_cons afterName
  obtain ⟨r, hr, draft, whole⟩ := expression_finish printable afterIn
  refine ⟨span, r.value, ?_, draft⟩
  rw [loopHeader]
  simp only [hr, whole]
  rfl

/-- No expression starts with the word that negates a condition. -/
theorem tokens_ne_not {e : Expr} (printable : e.Printable) (us : List Token) :
    e.tokens ≠ .ident "not" :: us := by
  intro h
  have primary := printable.primary
  rw [Expr.tokens] at h
  cases hp : e.primary with
  | literal v =>
    rw [hp] at h primary
    cases v with
    | bool b => cases b <;> simp [Primary.tokens, Value.tokens] at h
    | null | int | string => simp [Primary.tokens, Value.tokens] at h
    | _ => cases primary
  | lookup name keys =>
    rw [hp] at h primary
    obtain ⟨first, -⟩ := List.cons.inj h
    exact primary.2.1 (Token.ident.inj first)

theorem condition_read {negated : Bool} {e : Expr} (printable : e.Printable)
    (spelled : ts.map Prod.fst = (if negated then [.ident "not"] else []) ++ e.tokens) :
    ∃ d, condition ts = .ok (negated, d) ∧ d.outline = e.outline := by
  cases negated with
  | true =>
    obtain ⟨_, rest, rfl, afterNot⟩ := placed_cons spelled
    obtain ⟨r, hr, draft, whole⟩ := expression_finish printable afterNot
    refine ⟨r.value, ?_, draft⟩
    rw [condition]
    simp only [hr, whole]
    rfl
  | false =>
    obtain ⟨r, hr, draft, whole⟩ := expression_finish printable spelled
    refine ⟨r.value, ?_, draft⟩
    rw [condition]
    · simp only [hr, whole]
      rfl
    · rintro span rest rfl
      exact tokens_ne_not printable _ spelled.symm

theorem arguments_read {as : List Argument} (next : List Expectation)
    (printable : ∀ a ∈ as, a.value.Printable)
    (spelled : ts.map Prod.fst = as.flatMap Argument.tokens) :
    ∃ ds, arguments next ts = .ok ds ∧
      ds.map (fun d => (d.1.1, d.2.outline)) = as.map fun a => (a.name, a.value.outline) := by
  induction as generalizing ts next with
  | nil =>
    obtain rfl := List.map_eq_nil_iff.1 spelled
    exact ⟨[], by rw [arguments], rfl⟩
  | cons a as ih =>
    obtain ⟨here, others⟩ := List.forall_mem_cons.1 printable
    have ended : Ended (as.flatMap Argument.tokens) := by
      cases as with
      | nil => exact ended_nil
      | cons => exact ended_ident _ _
    rw [List.flatMap_cons, Argument.tokens] at spelled
    obtain ⟨span, _, rfl, afterName⟩ := placed_cons spelled
    obtain ⟨_, rest, rfl, afterEquals⟩ := placed_cons afterName
    obtain ⟨r, hr, draft, afterValue⟩ := expression_read here ended afterEquals
    obtain ⟨ds, hds, drafts⟩ := ih r.next others afterValue
    refine ⟨((a.name, span), r.value) :: ds, ?_, ?_⟩
    · rw [arguments]
      split
      · rename_i failed
        cases hr.symm.trans failed
      · rename_i read
        cases hr.symm.trans read
        rw [hds]
        rfl
    · rw [List.map_cons, List.map_cons, drafts, draft]

/-! ## Checks -/

theorem FilterCall.check_of {call : FilterCall} {kind : FilterKind}
    (h : (call.name, call.argument) = (kind.name, kind.argument?)) :
    call.check = .ok ⟨kind, call.span⟩ := by
  obtain ⟨name, argument⟩ := Prod.mk.inj h
  rw [FilterCall.check, name, argument]
  cases kind <;> rfl

theorem checkCalls_of (site : Site) {calls : List FilterCall} {fs : List Filter}
    (h : calls.map (fun call => (call.name, call.argument)) =
      fs.map fun f => (f.kind.name, f.kind.argument?)) :
    ∃ fs', checkCalls site calls = .ok fs' ∧ fs'.map Filter.kind = fs.map Filter.kind := by
  induction fs generalizing calls with
  | nil =>
    obtain rfl := List.map_eq_nil_iff.1 h
    exact ⟨[], rfl, rfl⟩
  | cons f fs ih =>
    obtain ⟨call, calls, rfl, here, others⟩ := List.map_eq_cons_iff.1 h
    obtain ⟨fs', checked, kinds⟩ := ih others
    refine ⟨⟨f.kind, call.span⟩ :: fs', ?_, by rw [List.map_cons, List.map_cons, kinds]⟩
    rw [checkCalls, FilterCall.check_of here]
    simp only [checked]
    rfl

theorem Draft.check_of {d : Draft} {e : Expr} (h : d.outline = e.outline) (site : Site) :
    ∃ e', d.check site = .ok e' ∧ e'.erase = e.erase := by
  obtain ⟨primary, calls⟩ := Prod.mk.inj h
  obtain ⟨fs, checked, kinds⟩ := checkCalls_of site calls
  refine ⟨⟨d.primary, fs, d.span⟩, by rw [Draft.check, checked]; rfl, ?_⟩
  have same : fs.map (fun f => (⟨f.kind, default⟩ : Filter)) =
      e.filters.map fun f => ⟨f.kind, default⟩ := by
    simpa [Function.comp_def] using
      congrArg (List.map fun kind => (⟨kind, default⟩ : Filter)) kinds
  rw [Expr.erase, Expr.erase, primary, same]

end Grammar

open Grammar

namespace Tag

variable {t : Tag} {name : String} {q : Quoting} {e : Expr}

theorem lex_spells {args : List Char} {tokens : List Token} (spells : t.Spells name args)
    (lexes : Lexes false args tokens) :
    ∃ ts, lex t.args (tagSite t).start = .ok ts ∧ ts.map Prod.fst = tokens := by
  rw [spells.args_eq, lex, String.toList_ofList]
  exact lexes _

theorem condition_spells {negated : Bool} (printable : e.Printable)
    (spells : t.Spells name (' ' :: ((if negated then "not ".toList else []) ++ e.spell q))) :
    ∃ c, t.condition = .ok c ∧ c.negated = negated ∧ c.expr.erase = e.erase := by
  have whole := Expr.lexes_alone (q := q) printable
  have lexes : Lexes false ((if negated then "not ".toList else []) ++ e.spell q)
      ((if negated then [.ident "not"] else []) ++ e.tokens) := by
    cases negated with
    | true =>
      have word : isIdentifier "not" = true := by decide
      exact .ident word (stopped_cons (by decide) (by decide) _).1 whole.gap
    | false => exact whole
  obtain ⟨ts, lexed, spelled⟩ := lex_spells spells lexes.gap
  obtain ⟨d, read, outline⟩ := condition_read printable spelled
  obtain ⟨e', checked, same⟩ := Draft.check_of outline (tagSite t)
  have header := readAll_eq_ok_iff.2 ⟨ts, lexed, read⟩
  exact ⟨⟨negated, e'⟩, bind_eq_ok_iff.2 ⟨_, header, bind_eq_ok_iff.2 ⟨e', checked, rfl⟩⟩, rfl,
    same⟩

theorem loopHeader_spells {item : String} (identifier : isIdentifier item = true)
    (printable : e.Printable)
    (spells : t.Spells name (' ' :: (item.toList ++ " in ".toList ++ e.spell q))) :
    ∃ h, t.loopHeader = .ok h ∧ h.variableName = item ∧ h.iterable.erase = e.erase := by
  have whole := Expr.lexes_alone (q := q) printable
  have lexes : Lexes false (item.toList ++ " in ".toList ++ e.spell q)
      (.ident item :: .ident "in" :: e.tokens) := by
    rw [List.append_assoc]
    have word : isIdentifier "in" = true := by decide
    have after : Lexes false (" in ".toList ++ e.spell q) (.ident "in" :: e.tokens) :=
      .gap (.ident word (stopped_cons (by decide) (by decide) _).1 whole.gap)
    exact .ident identifier (stopped_cons (by decide) (by decide) _).1 after
  obtain ⟨ts, lexed, spelled⟩ := lex_spells spells lexes.gap
  obtain ⟨span, d, read, outline⟩ := loopHeader_read printable spelled
  obtain ⟨e', checked, same⟩ := Draft.check_of outline (tagSite t)
  have header := readAll_eq_ok_iff.2 ⟨ts, lexed, read⟩
  exact ⟨⟨item, span, e'⟩, bind_eq_ok_iff.2 ⟨_, header, bind_eq_ok_iff.2 ⟨e', checked, rfl⟩⟩, rfl,
    same⟩

theorem checkArguments_of (site : Site) {ds : List ((String × Span) × Draft)} {as : List Argument}
    (h : ds.map (fun d => (d.1.1, d.2.outline)) = as.map fun a => (a.name, a.value.outline)) :
    ∃ ks, checkArguments site ds = .ok ks ∧
      ks.map (fun k => (k.name, k.value.erase)) = as.map fun a => (a.name, a.value.erase) := by
  induction as generalizing ds with
  | nil =>
    obtain rfl := List.map_eq_nil_iff.1 h
    exact ⟨[], rfl, rfl⟩
  | cons a as ih =>
    obtain ⟨⟨⟨name, span⟩, d⟩, ds, rfl, here, others⟩ := List.map_eq_cons_iff.1 h
    obtain ⟨rfl, outline⟩ := Prod.mk.inj here
    obtain ⟨e, checked, same⟩ := Draft.check_of outline site
    obtain ⟨ks, more, all⟩ := ih others
    refine ⟨⟨a.name, span, e⟩ :: ks, ?_, by rw [List.map_cons, List.map_cons, same, all]⟩
    exact bind_eq_ok_iff.2 ⟨e, checked, bind_eq_ok_iff.2 ⟨ks, more, rfl⟩⟩

theorem invocationArguments_spells {as : List Argument}
    (printable : ∀ a ∈ as, isIdentifier a.name = true ∧ a.value.Printable)
    (distinct : (as.map Argument.name).Nodup)
    (spells : t.Spells name (as.flatMap (Argument.spell q))) :
    ∃ as', t.invocationArguments = .ok as' ∧ as'.map Argument.erase = as.map Argument.erase := by
  obtain ⟨ts, lexed, spelled⟩ := lex_spells spells (Argument.lexes_all printable)
  obtain ⟨ds, read, outlines⟩ := arguments_read [] (fun a ha => (printable a ha).2) spelled
  obtain ⟨ks, checked, same⟩ := checkArguments_of (tagSite t) outlines
  have names : ks.map KeywordArgument.name = as.map Argument.name := by
    simpa [Function.comp_def] using congrArg (List.map Prod.fst) same
  have fresh : Parser.checkDistinct t [] ks =
      .ok (ks.map fun a => ⟨a.name, a.value, ⟨a.nameSpan.start, a.value.span.stop⟩⟩) :=
    Parser.checkDistinct_eq_ok_iff.2 ⟨rfl, names ▸ distinct, by simp⟩
  have drafts := readAll_eq_ok_iff.2 ⟨ts, lexed, read⟩
  refine ⟨_, bind_eq_ok_iff.2 ⟨ks, bind_eq_ok_iff.2 ⟨ds, drafts, checked⟩, fresh⟩, ?_⟩
  have erase : Argument.erase = fun a => ⟨a.name, a.value.erase, default⟩ := rfl
  simpa [erase, Function.comp_def] using
    congrArg (List.map fun a => (⟨a.1, a.2, default⟩ : Argument)) same

theorem slotName_spells {slot : String} (identifier : isIdentifier slot = true)
    (spells : t.Spells name (' ' :: slot.toList)) : t.slotName = .ok slot := by
  obtain ⟨solid, hne⟩ := Solid.identifier identifier
  have one : Text.words slot.toList = [slot.toList] := by
    have word : Text.words (slot.toList ++ []) = slot.toList :: Text.words [] :=
      Text.words_append hne solid.ink (by simp)
    rwa [List.append_nil, Text.words_nil] at word
  have words : t.words = [name, slot] := by
    rw [spells.words, Text.words_blank (by decide), one, List.map_singleton, String.ofList_toList]
  rw [Tag.slotName, words]

end Tag

theorem Expr.ofVariable_spell {q : Quoting} {e : Expr} (printable : e.Printable)
    (offset line : Nat) :
    ∃ e', Expr.ofVariable (String.ofList (e.spell q)) offset line = .ok e' ∧
      e'.erase = e.erase := by
  obtain ⟨ts, lexed, spelled⟩ := Expr.lexes_alone (q := q) printable offset
  obtain ⟨d, read, outline⟩ := alone_read printable spelled
  obtain ⟨e', checked, same⟩ := Draft.check_of outline _
  refine ⟨e', bind_eq_ok_iff.2 ⟨d, readAll_eq_ok_iff.2 ⟨ts, ?_, read⟩, checked⟩, same⟩
  rw [lex, String.toList_ofList]
  exact lexed

end SlotTemplate
