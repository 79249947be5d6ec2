import SlotTemplate.Expr.Grammar

/-!
# Forms of arguments

What the grammar allows in a variable or behind a tag's name, as forms that spell out their tokens.
Nothing separates one argument from the next, and still no two forms spell the same: what may
follow a form never goes on with it.

* `keys_unique`, `PrimaryForm.unique`, `calls_unique`, `ExprForm.unique`: forms that spell the same
  up to tokens that do not go on with them are the same;
* `ExprForm.tokens_injective`, `arguments_injective`, `LoopForm.tokens_injective`,
  `ConditionForm.tokens_injective`: so are forms that spell the same.
-/

namespace SlotTemplate.Grammar

open Argument

/-! ## Places of tokens -/

/-- Where tokens stop that stand behind an offset. -/
def stopOf (stop : Nat) : List Placed → Nat
  | [] => stop
  | t :: ts => stopOf t.2.stop ts

theorem stopOf_append (stop : Nat) (ts us : List Placed) :
    stopOf stop (ts ++ us) = stopOf (stopOf stop ts) us := by
  induction ts generalizing stop with
  | nil => rfl
  | cons t ts ih => exact ih t.2.stop

/-- Only the last token counts. -/
theorem stopOf_eq {ts : List Placed} (nonempty : ts ≠ []) (stop stop' : Nat) :
    stopOf stop ts = stopOf stop' ts := by
  cases ts with
  | nil => exact absurd rfl nonempty
  | cons t ts => rfl

theorem startOf_append {ts : List Placed} (nonempty : ts ≠ []) (us : List Placed) :
    startOf (ts ++ us) = startOf ts := by
  cases ts with
  | nil => exact absurd rfl nonempty
  | cons t ts => rfl

/-- From the start of the first token to the end of the last one. -/
def spanOf (ts : List Placed) : Span := ⟨startOf ts, stopOf (startOf ts) ts⟩

/-- A token does not come first. -/
def Avoids (t : Token) (ts : List Placed) : Prop := ∀ span rest, ts ≠ (t, span) :: rest

theorem avoids_nil (t : Token) : Avoids t [] := by
  intro _ _ e
  cases e

theorem avoids_cons {t u : Token} (other : u ≠ t) (span : Span) (ts : List Placed) :
    Avoids t ((u, span) :: ts) := by
  intro _ _ e
  exact other (congrArg Prod.fst (List.cons.inj e).1)

/-- Tokens that do not go on with an expression. -/
structure Closed (ts : List Placed) : Prop where
  dot : Avoids .dot ts
  pipe : Avoids .pipe ts
  colon : Avoids .colon ts

theorem closed_nil : Closed [] := ⟨avoids_nil _, avoids_nil _, avoids_nil _⟩

theorem closed_ident (name : String) (span : Span) (ts : List Placed) :
    Closed ((.ident name, span) :: ts) := by
  constructor <;> exact avoids_cons (by rintro ⟨⟩) span ts

/-! ## Lookups and literals -/

/-- What may stand behind a dot. -/
inductive Key where
  | name (word : String)
  | index (n : Int64)

namespace Key

def token : Key → Token
  | .name word => .ident word
  | .index n => .int n

def text : Key → String
  | .name word => word
  | .index n => toString n.toInt

theorem token_injective {k k' : Key} (h : k.token = k'.token) : k = k' := by
  cases k <;> cases k' <;> cases h <;> rfl

end Key

/-- A key behind its dot. -/
structure KeyForm where
  dot : Span
  key : Key
  span : Span

def KeyForm.tokens (k : KeyForm) : List Placed := [(.dot, k.dot), (k.key.token, k.span)]

/-- The forms that an expression can start with, and those of a filter's argument. -/
inductive PrimaryForm where
  | string (text : String) (span : Span)
  | int (n : Int64) (span : Span)
  | float (x : Binary64) (span : Span)
  | path (name : String) (span : Span) (keys : List KeyForm)

namespace PrimaryForm

def tokens : PrimaryForm → List Placed
  | .string text span => [(.string text, span)]
  | .int n span => [(.int n, span)]
  | .float x span => [(.float x, span)]
  | .path name span keys => (.ident name, span) :: keys.flatMap KeyForm.tokens

theorem tokens_ne (p : PrimaryForm) : p.tokens ≠ [] := by
  cases p <;> exact List.cons_ne_nil _ _

/-- What a form stands for. Three names alone are constants. -/
def tree : PrimaryForm → Primary
  | .string text _ => .literal (.string text)
  | .int n _ => .literal (.int n)
  | .float x _ => .literal (.float x)
  | .path "True" _ [] => .literal (.bool true)
  | .path "False" _ [] => .literal (.bool false)
  | .path "None" _ [] => .literal .null
  | .path name _ keys => .lookup name (keys.map (·.key.text))

end PrimaryForm

/-- Keys end where no dot follows. -/
theorem keys_unique {ks ks' : List KeyForm} {rest rest' : List Placed}
    (same : ks.flatMap KeyForm.tokens ++ rest = ks'.flatMap KeyForm.tokens ++ rest')
    (h : Avoids .dot rest) (h' : Avoids .dot rest') : ks = ks' ∧ rest = rest' := by
  induction ks generalizing ks' with
  | nil =>
    cases ks' with
    | nil => exact ⟨rfl, same⟩
    | cons k' ks' => exact absurd same (h _ _)
  | cons k ks ih =>
    cases ks' with
    | nil => exact absurd same.symm (h' _ _)
    | cons k' ks' =>
      obtain ⟨dot, key, span⟩ := k
      obtain ⟨dot', key', span'⟩ := k'
      obtain ⟨first, behind⟩ := List.cons.inj same
      obtain ⟨second, others⟩ := List.cons.inj behind
      obtain ⟨rfl, rfl⟩ := ih others
      obtain rfl : dot = dot' := congrArg Prod.snd first
      obtain rfl : span = span' := congrArg Prod.snd second
      obtain rfl : key = key' := Key.token_injective (congrArg Prod.fst second)
      exact ⟨rfl, rfl⟩

theorem PrimaryForm.unique {p p' : PrimaryForm} {rest rest' : List Placed}
    (same : p.tokens ++ rest = p'.tokens ++ rest') (h : Avoids .dot rest)
    (h' : Avoids .dot rest') : p = p' ∧ rest = rest' := by
  cases p with
  | path name span keys =>
    cases p' with
    | path name' span' keys' =>
      obtain ⟨first, behind⟩ := List.cons.inj same
      cases first
      obtain ⟨rfl, rfl⟩ := keys_unique behind h h'
      exact ⟨rfl, rfl⟩
    | _ => cases same
  | string | int | float =>
    -- one token, which says what it is
    cases p' <;> cases same
    exact ⟨rfl, rfl⟩

/-! ## Expressions -/

/-- A bar and the name of a filter, and behind a colon its argument. -/
structure CallForm where
  bar : Span
  name : String
  span : Span
  /-- The place of the colon and what stands behind it. -/
  argument? : Option (Span × PrimaryForm)

namespace CallForm

/-- The tokens behind the name. -/
def argumentTokens (c : CallForm) : List Placed :=
  c.argument?.elim [] fun a => (.colon, a.1) :: a.2.tokens

def tokens (c : CallForm) : List Placed :=
  (.pipe, c.bar) :: (.ident c.name, c.span) :: c.argumentTokens

theorem unique {c c' : CallForm} {rest rest' : List Placed}
    (same : c.tokens ++ rest = c'.tokens ++ rest') (dot : Avoids .dot rest)
    (dot' : Avoids .dot rest') (colon : Avoids .colon rest) (colon' : Avoids .colon rest') :
    c = c' ∧ rest = rest' := by
  obtain ⟨bar, name, span, argument⟩ := c
  obtain ⟨bar', name', span', argument'⟩ := c'
  obtain ⟨first, behind⟩ := List.cons.inj same
  obtain ⟨second, arguments⟩ := List.cons.inj behind
  cases first
  cases second
  cases argument with
  | none =>
    cases argument' with
    | none => exact ⟨rfl, arguments⟩
    | some => exact absurd arguments (colon _ _)
  | some a =>
    cases argument' with
    | none => exact absurd arguments.symm (colon' _ _)
    | some a' =>
      obtain ⟨place, p⟩ := a
      obtain ⟨place', p'⟩ := a'
      obtain ⟨third, primaries⟩ := List.cons.inj arguments
      cases third
      obtain ⟨rfl, rfl⟩ := PrimaryForm.unique primaries dot dot'
      exact ⟨rfl, rfl⟩

end CallForm

/-- What stands in front of filters may be followed by one. -/
theorem avoids_calls {t : Token} (other : .pipe ≠ t) (cs : List CallForm) {rest : List Placed}
    (h : Avoids t rest) : Avoids t (cs.flatMap CallForm.tokens ++ rest) := by
  cases cs with
  | nil => exact h
  | cons c cs => exact avoids_cons other _ _

/-- Filters end where no bar follows. -/
theorem calls_unique {cs cs' : List CallForm} {rest rest' : List Placed}
    (same : cs.flatMap CallForm.tokens ++ rest = cs'.flatMap CallForm.tokens ++ rest')
    (h : Closed rest) (h' : Closed rest') : cs = cs' ∧ rest = rest' := by
  induction cs generalizing cs' with
  | nil =>
    cases cs' with
    | nil => exact ⟨rfl, same⟩
    | cons c' cs' => exact absurd same (h.pipe _ _)
  | cons c cs ih =>
    cases cs' with
    | nil => exact absurd same.symm (h'.pipe _ _)
    | cons c' cs' =>
      rw [List.flatMap_cons, List.flatMap_cons, List.append_assoc, List.append_assoc] at same
      obtain ⟨rfl, others⟩ := CallForm.unique same (avoids_calls (by rintro ⟨⟩) _ h.dot)
        (avoids_calls (by rintro ⟨⟩) _ h'.dot) (avoids_calls (by rintro ⟨⟩) _ h.colon)
        (avoids_calls (by rintro ⟨⟩) _ h'.colon)
      obtain ⟨rfl, rfl⟩ := ih others
      exact ⟨rfl, rfl⟩

structure ExprForm where
  primary : PrimaryForm
  calls : List CallForm

namespace ExprForm

def tokens (e : ExprForm) : List Placed := e.primary.tokens ++ e.calls.flatMap CallForm.tokens

theorem tokens_ne (e : ExprForm) : e.tokens ≠ [] :=
  List.append_ne_nil_of_left_ne_nil e.primary.tokens_ne _

/-- An expression ends where nothing follows that goes on with it. -/
theorem unique {e e' : ExprForm} {rest rest' : List Placed}
    (same : e.tokens ++ rest = e'.tokens ++ rest') (h : Closed rest) (h' : Closed rest') :
    e = e' ∧ rest = rest' := by
  obtain ⟨primary, calls⟩ := e
  obtain ⟨primary', calls'⟩ := e'
  rw [tokens, tokens, List.append_assoc, List.append_assoc] at same
  obtain ⟨rfl, others⟩ := PrimaryForm.unique same (avoids_calls (by rintro ⟨⟩) _ h.dot)
    (avoids_calls (by rintro ⟨⟩) _ h'.dot)
  obtain ⟨rfl, rfl⟩ := calls_unique others h h'
  exact ⟨rfl, rfl⟩

theorem tokens_injective {e e' : ExprForm} (same : e.tokens = e'.tokens) : e = e' := by
  have ended : e.tokens ++ [] = e'.tokens ++ [] := by rw [same]
  exact (unique ended closed_nil closed_nil).1

end ExprForm

/-! ## Contents of tags -/

/-- A name, the sign behind it and a value. -/
structure ArgumentForm where
  name : String
  span : Span
  equals : Span
  value : ExprForm

def ArgumentForm.tokens (a : ArgumentForm) : List Placed :=
  (.ident a.name, a.span) :: (.equals, a.equals) :: a.value.tokens

/-- What follows an argument does not go on with it. -/
theorem closed_arguments (as : List ArgumentForm) : Closed (as.flatMap ArgumentForm.tokens) := by
  cases as with
  | nil => exact closed_nil
  | cons a as => exact closed_ident _ _ _

theorem arguments_injective {as as' : List ArgumentForm}
    (same : as.flatMap ArgumentForm.tokens = as'.flatMap ArgumentForm.tokens) : as = as' := by
  induction as generalizing as' with
  | nil =>
    cases as' with
    | nil => rfl
    | cons => cases same
  | cons a as ih =>
    cases as' with
    | nil => cases same
    | cons a' as' =>
      obtain ⟨name, span, equals, value⟩ := a
      obtain ⟨name', span', equals', value'⟩ := a'
      obtain ⟨first, behind⟩ := List.cons.inj same
      obtain ⟨second, values⟩ := List.cons.inj behind
      cases first
      cases second
      obtain ⟨rfl, others⟩ :=
        ExprForm.unique values (closed_arguments as) (closed_arguments as')
      rw [ih others]

/-- A variable, the word behind it and what it runs through. -/
structure LoopForm where
  name : String
  span : Span
  word : Span
  iterable : ExprForm

namespace LoopForm

def tokens (f : LoopForm) : List Placed :=
  (.ident f.name, f.span) :: (.ident "in", f.word) :: f.iterable.tokens

theorem tokens_injective {f f' : LoopForm} (same : f.tokens = f'.tokens) : f = f' := by
  obtain ⟨name, span, word, iterable⟩ := f
  obtain ⟨name', span', word', iterable'⟩ := f'
  obtain ⟨first, behind⟩ := List.cons.inj same
  obtain ⟨second, expressions⟩ := List.cons.inj behind
  cases first
  cases second
  obtain rfl : iterable = iterable' := ExprForm.tokens_injective expressions
  rfl

end LoopForm

/-- An expression that may be negated. A name `not` in front always negates. -/
structure ConditionForm where
  /-- The place of the word that negates. -/
  negation? : Option Span
  expr : ExprForm
  plain : negation? = none → Avoids (.ident "not") expr.tokens

namespace ConditionForm

def tokens (f : ConditionForm) : List Placed :=
  f.negation?.elim [] (fun span => [(.ident "not", span)]) ++ f.expr.tokens

theorem tokens_injective {f f' : ConditionForm} (same : f.tokens = f'.tokens) : f = f' := by
  obtain ⟨negation, expr, plain⟩ := f
  obtain ⟨negation', expr', plain'⟩ := f'
  cases negation with
  | none =>
    cases negation' with
    | none =>
      obtain rfl : expr = expr' := ExprForm.tokens_injective same
      rfl
    | some => exact absurd same (plain rfl _ _)
  | some span =>
    cases negation' with
    | none => exact absurd same.symm (plain' rfl _ _)
    | some span' =>
      obtain ⟨first, expressions⟩ := List.cons.inj same
      cases first
      obtain rfl : expr = expr' := ExprForm.tokens_injective expressions
      rfl

end ConditionForm

end SlotTemplate.Grammar
