import SlotTemplate.Expr
import SlotTemplate.Error
import SlotTemplate.Argument.Lexer
import SlotTemplate.Markup.Lexeme

/-!
# The grammar of arguments

The arguments of components, the headers of loops and conditions and the contents of variables. The
grammar needs one token of look-ahead. Each reader says what could have continued what it read, so
that an error lists all that could have stood at the place where reading stopped.

* `primary_rest`, `filters_rest`: what a reader leaves is no longer than what it was given;
* `filters_argument`, `filters_named`, `filters_end`: how filters are read.
-/

namespace SlotTemplate.Grammar

open Argument

/-- Reading stopped before `rest`, where one of `expected` could have stood. -/
structure Stuck where
  rest : List Placed
  expected : List Expectation

/-- Something read up to an offset, what follows it and what could have continued it. -/
structure Reading (α : Type) where
  value : α
  stop : Nat
  rest : List Placed
  next : List Expectation

/-- A filter whose name is not yet checked. -/
structure FilterCall where
  name : String
  argument : Option Primary
  span : Span

/-- An expression whose filters are not yet checked. -/
structure Draft where
  primary : Primary
  calls : List FilterCall
  span : Span

/-- The keys of a lookup, each behind a dot. -/
def keys (stop : Nat) : List Placed → Except Stuck (Reading (List String))
  | (.dot, _) :: (.ident name, span) :: rest =>
    (keys span.stop rest).map fun r => { r with value := name :: r.value }
  | (.dot, _) :: (.int n, span) :: rest =>
    (keys span.stop rest).map fun r => { r with value := toString n.toInt :: r.value }
  | (.dot, _) :: rest => .error ⟨rest, []⟩
  | rest => .ok ⟨[], stop, rest, [.token .dot]⟩

/-- A name with its keys; three names alone are constants. -/
def named (name : String) (keys : List String) : Primary :=
  if keys.isEmpty then
    match name with
    | "True" => .literal (.bool true)
    | "False" => .literal (.bool false)
    | "None" => .literal .null
    | _ => .lookup name []
  else .lookup name keys

def primary : List Placed → Except Stuck (Reading Primary)
  | (.string s, span) :: rest => .ok ⟨.literal (.string s), span.stop, rest, []⟩
  | (.int n, span) :: rest => .ok ⟨.literal (.int n), span.stop, rest, []⟩
  | (.float x, span) :: rest => .ok ⟨.literal (.float x), span.stop, rest, []⟩
  | (.ident name, span) :: rest =>
    (keys span.stop rest).map fun r => ⟨named name r.value, r.stop, r.rest, r.next⟩
  | rest => .error ⟨rest, []⟩

theorem keys_rest {stop : Nat} {ts : List Placed} {r : Reading (List String)}
    (h : keys stop ts = .ok r) : r.rest.length ≤ ts.length := by
  fun_induction keys stop ts generalizing r with
  | case1 _ _ _ span rest ih =>
    cases hk : keys span.stop rest with
    | error e => simp [hk, Except.map] at h
    | ok r' =>
      simp only [hk, Except.map, Except.ok.injEq] at h
      have := ih hk
      subst h
      simp only [List.length_cons]
      omega
  | case2 _ _ _ span rest ih =>
    cases hk : keys span.stop rest with
    | error e => simp [hk, Except.map] at h
    | ok r' =>
      simp only [hk, Except.map, Except.ok.injEq] at h
      have := ih hk
      subst h
      simp only [List.length_cons]
      omega
  | case3 => simp at h
  | case4 =>
    simp only [Except.ok.injEq] at h
    subst h
    simp

theorem primary_rest {ts : List Placed} {r : Reading Primary} (h : primary ts = .ok r) :
    r.rest.length < ts.length := by
  unfold primary at h
  split at h
  · simp only [Except.ok.injEq] at h; subst h; simp
  · simp only [Except.ok.injEq] at h; subst h; simp
  · simp only [Except.ok.injEq] at h; subst h; simp
  · rename_i name span rest
    cases hk : keys span.stop rest with
    | error e => simp [hk, Except.map] at h
    | ok r' =>
      simp only [hk, Except.map, Except.ok.injEq] at h
      have := keys_rest hk
      subst h
      simp only [List.length_cons]
      omega
  · simp at h

/-- Filters up to the first token that starts none; `next` could continue what precedes them. -/
def filters (stop : Nat) (next : List Expectation) :
    List Placed → Except Stuck (Reading (List FilterCall))
  | (.pipe, bar) :: (.ident name, span) :: rest =>
    match rest with
    | (.colon, _) :: rest =>
      match _h : primary rest with
      | .error e => .error e
      | .ok r =>
        (filters r.stop r.next r.rest).map fun more =>
          { more with value := ⟨name, some r.value, ⟨bar.start, r.stop⟩⟩ :: more.value }
    | rest =>
      (filters span.stop [.token .colon] rest).map fun more =>
        { more with value := ⟨name, none, ⟨bar.start, span.stop⟩⟩ :: more.value }
  | (.pipe, _) :: rest => .error ⟨rest, []⟩
  | rest => .ok ⟨[], stop, rest, next ++ [.token .pipe]⟩
termination_by ts => ts.length
decreasing_by
  · have := primary_rest _h
    simp only [List.length_cons]
    omega
  · simp only [List.length_cons]
    omega

section

variable {stop : Nat} {next : List Expectation} {bar span : Span} {name : String}
  {rest : List Placed}

theorem filters_argument {colon : Span} {p : Reading Primary} (argument : primary rest = .ok p) :
    filters stop next ((.pipe, bar) :: (.ident name, span) :: (.colon, colon) :: rest) =
      (filters p.stop p.next p.rest).map fun more =>
        { more with value := ⟨name, some p.value, ⟨bar.start, p.stop⟩⟩ :: more.value } := by
  rw [filters]
  split
  · rename_i failed
    cases argument.symm.trans failed
  · rename_i read
    cases argument.symm.trans read
    rfl

theorem filters_named (other : ∀ colon more, rest ≠ (.colon, colon) :: more) :
    filters stop next ((.pipe, bar) :: (.ident name, span) :: rest) =
      (filters span.stop [.token .colon] rest).map fun more =>
        { more with value := ⟨name, none, ⟨bar.start, span.stop⟩⟩ :: more.value } := by
  rw [filters]
  exact other

theorem filters_end (other : ∀ bar more, rest ≠ (.pipe, bar) :: more) :
    filters stop next rest = .ok ⟨[], stop, rest, next ++ [.token .pipe]⟩ := by
  rw [filters.eq_def]
  split
  · exact absurd rfl (other _ _)
  · exact absurd rfl (other _ _)
  · rfl

end

/-- Where a list of tokens starts. -/
def startOf (ts : List Placed) : Nat := ts.head?.elim 0 (·.2.start)

def expression (ts : List Placed) : Except Stuck (Reading Draft) :=
  match primary ts with
  | .error e => .error e
  | .ok p =>
    (filters p.stop p.next p.rest).map fun r =>
      ⟨⟨p.value, r.value, ⟨startOf ts, r.stop⟩⟩, r.stop, r.rest, r.next⟩

/-- Nothing may follow. -/
def finish {α : Type} (r : Reading α) : Except Stuck α :=
  if r.rest.isEmpty then .ok r.value else .error ⟨r.rest, r.next ++ [.endOfTag]⟩

theorem filters_rest {stop : Nat} {next : List Expectation} {ts : List Placed}
    {r : Reading (List FilterCall)} (h : filters stop next ts = .ok r) :
    r.rest.length ≤ ts.length := by
  fun_induction filters stop next ts generalizing r with
  | case1 => simp at h
  | case2 stop next bar name span colon rest p hp ih =>
    cases hk : filters p.stop p.next p.rest with
    | error e => simp [hk, Except.map] at h
    | ok r' =>
      simp only [hk, Except.map, Except.ok.injEq] at h
      have := ih hk
      have := primary_rest hp
      subst h
      simp only [List.length_cons]
      omega
  | case3 stop next bar name span rest _ ih =>
    cases hk : filters span.stop [.token .colon] rest with
    | error e => simp [hk, Except.map] at h
    | ok r' =>
      simp only [hk, Except.map, Except.ok.injEq] at h
      have := ih hk
      subst h
      simp only [List.length_cons]
      omega
  | case4 => simp at h
  | case5 =>
    simp only [Except.ok.injEq] at h
    subst h
    simp

theorem expression_rest {ts : List Placed} {r : Reading Draft} (h : expression ts = .ok r) :
    r.rest.length < ts.length := by
  unfold expression at h
  split at h
  · simp at h
  · rename_i p hp
    cases hk : filters p.stop p.next p.rest with
    | error e => simp [hk, Except.map] at h
    | ok r' =>
      simp only [hk, Except.map, Except.ok.injEq] at h
      have := filters_rest hk
      have := primary_rest hp
      subst h
      simp only
      omega

/-- Names with their values up to the end; `next` could continue what precedes them. -/
def arguments (next : List Expectation) :
    List Placed → Except Stuck (List ((String × Span) × Draft))
  | [] => .ok []
  | (.ident name, span) :: rest =>
    match rest with
    | (.equals, _) :: rest =>
      match _h : expression rest with
      | .error e => .error e
      | .ok r => (arguments r.next r.rest).map (((name, span), r.value) :: ·)
    | rest => .error ⟨rest, [.token .equals]⟩
  | rest => .error ⟨rest, next ++ [.endOfTag]⟩
termination_by ts => ts.length
decreasing_by
  have := expression_rest _h
  simp only [List.length_cons]
  omega

/-- A variable, `in` and what it runs through. -/
def loopHeader : List Placed → Except Stuck ((String × Span) × Draft)
  | (.ident name, span) :: rest =>
    match rest with
    | (.ident "in", _) :: rest =>
      match expression rest with
      | .error e => .error e
      | .ok r => (finish r).map (((name, span), ·))
    | rest => .error ⟨rest, [.token (.ident "in")]⟩
  | rest => .error ⟨rest, []⟩

/-- An expression, negated if the word `not` leads. -/
def condition : List Placed → Except Stuck (Bool × Draft)
  | (.ident "not", _) :: rest =>
    match expression rest with
    | .error e => .error e
    | .ok r => (finish r).map (true, ·)
  | ts =>
    match expression ts with
    | .error e =>
      .error (if e.rest.length = ts.length then
        { e with expected := .token (.ident "not") :: e.expected } else e)
    | .ok r => (finish r).map (false, ·)

def alone (ts : List Placed) : Except Stuck Draft :=
  match expression ts with
  | .error e => .error e
  | .ok r => finish r

/-! ## Checked expressions -/

/-- The filter that a call names, or what is wrong with the call. -/
def FilterCall.check (call : FilterCall) : Except TagFault Filter :=
  match call.name, call.argument with
  | "default", some alternative => .ok ⟨.default alternative, call.span⟩
  | "default", none => .error (.filterNeedsArgument call.name)
  | name, argument =>
    match FilterKind.plain? name, argument with
    | some kind, none => .ok ⟨kind, call.span⟩
    | some _, some _ => .error (.filterTakesNoArgument name)
    | none, _ => .error (.unknownFilter name)

/-- Where a fragment stands: the tag that errors name, its line, and its first and last offset. -/
structure Site where
  tag : String
  line : Nat
  start : Nat
  stop : Nat

def Site.error (site : Site) (span : Span) (fault : TagFault) : TagError :=
  ⟨site.tag, span, site.line, fault⟩

/-- Checks filters in order; the first offending one counts. -/
def checkCalls (site : Site) : List FilterCall → Except TagError (List Filter)
  | [] => .ok []
  | call :: calls =>
    match call.check with
    | .error fault => .error (site.error call.span fault)
    | .ok filter => (checkCalls site calls).map (filter :: ·)

def Draft.check (site : Site) (d : Draft) : Except TagError Expr :=
  (checkCalls site d.calls).map fun filters => ⟨d.primary, filters, d.span⟩

/-- The place behind all tokens. It starts at the end of the fragment and stops where the last token
does, which is further to the left if the fragment ends with a gap. -/
def Site.behind (site : Site) (tokens : List Placed) : Span :=
  ⟨site.stop, tokens.getLast?.elim site.stop (·.2.stop)⟩

/-- The error for the place where reading of tokens stopped. -/
def Stuck.error (site : Site) (tokens : List Placed) (s : Stuck) : TagError :=
  match s.rest with
  | [] => site.error (site.behind tokens) (.unexpected none s.expected)
  | (t, span) :: _ => site.error span (.unexpected (some t) s.expected)

/-- Lexes a fragment and reads all of it. -/
def readAll {α : Type} (site : Site) (text : String) (reader : List Placed → Except Stuck α) :
    Except TagError α :=
  match lex text site.start with
  | .error span => .error (site.error span .unexpectedCharacter)
  | .ok tokens => (reader tokens).mapError (Stuck.error site tokens)

def tagSite (t : Tag) : Site :=
  ⟨t.name, t.line, t.argsOffset, t.argsOffset + Text.byteSize t.args.toList⟩

end Grammar

open Grammar

/-- A named argument. -/
structure KeywordArgument where
  name : String
  nameSpan : Span
  value : Expr

/-- A loop's variable and what it runs through. -/
structure LoopHeader where
  variableName : String
  variableSpan : Span
  iterable : Expr

structure Condition where
  negated : Bool
  expr : Expr

namespace Tag

def checkArguments (site : Site) :
    List ((String × Span) × Draft) → Except TagError (List KeywordArgument)
  | [] => .ok []
  | ((name, span), draft) :: rest => do
    let value ← draft.check site
    let more ← checkArguments site rest
    return ⟨name, span, value⟩ :: more

/-- The named arguments of a component tag, in order. -/
def keywordArguments (t : Tag) : Except TagError (List KeywordArgument) := do
  let drafts ← readAll (tagSite t) t.args (arguments [])
  checkArguments (tagSite t) drafts

/-- The header of a loop tag. -/
def loopHeader (t : Tag) : Except TagError LoopHeader := do
  let ((name, span), draft) ← readAll (tagSite t) t.args Grammar.loopHeader
  let iterable ← draft.check (tagSite t)
  return ⟨name, span, iterable⟩

/-- The condition of a conditional tag. -/
def condition (t : Tag) : Except TagError Condition := do
  let (negated, draft) ← readAll (tagSite t) t.args Grammar.condition
  let expr ← draft.check (tagSite t)
  return ⟨negated, expr⟩

end Tag

/-- The expression in a variable whose contents stand at an offset. -/
def Expr.ofVariable (contents : String) (offset line : Nat) : Except TagError Expr := do
  let site : Site :=
    ⟨"\x7b\x7b " ++ contents ++ " \x7d\x7d", line, offset, offset + Text.byteSize contents.toList⟩
  let draft ← readAll site contents alone
  draft.check site

end SlotTemplate
