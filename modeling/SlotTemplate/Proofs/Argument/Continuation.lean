import SlotTemplate.Proofs.Argument.Acceptance
import SlotTemplate.Proofs.Argument.Blame

/-!
# The first token that cannot continue

Which token may come next in a tag or a variable depends on a position only: one of a few places
between two tokens, such as behind a dot or behind the name of a filter. A form is a walk along
positions, and a reader gets stuck where the walk ends. So what is blamed is the first token with
which no form goes on, or the end if the tokens are the start of a form.

* `Position.next`: where a token leads, and `Position.walk` where several do;
* `arguments_walk`, `LoopForm.walk`, `ConditionForm.walk`, `ExprForm.walk`: every form is a
  walk to a position where it may end;
* `arguments_halts`, `loopHeader_halts`, `condition_halts`, `alone_halts`: where a reader gets stuck
  there is no way on;
* `readers_blame_first`: the readers of arguments, loops, conditions and variables blame the first
  token that cannot continue.
-/

namespace SlotTemplate

namespace Grammar

open Argument

/-! ## Positions -/

/-- A place between two tokens, named for what stands before it or for what has to come. -/
inductive Position where
  /-- A literal or a name has to come. -/
  | value
  | behindLiteral
  | behindPath
  | behindDot
  | behindBar
  | behindFilter
  /-- The name of an argument or the end has to come. -/
  | argument
  | behindName
  /-- The variable of a loop has to come. -/
  | loop
  | behindVariable
  /-- The word that negates or an expression has to come. -/
  | condition
deriving DecidableEq

namespace Position

/-- Where a token leads with which a value starts. -/
def ofValue : Token → Option Position
  | .string _ => some .behindLiteral
  | .int _ => some .behindLiteral
  | .float _ => some .behindLiteral
  | .ident _ => some .behindPath
  | _ => none

/-- Where a token leads; `several` says whether an argument may follow an expression. -/
def next (several : Bool) : Position → Token → Option Position
  | .value, t => ofValue t
  | .behindLiteral, .pipe => some .behindBar
  | .behindPath, .dot => some .behindDot
  | .behindPath, .pipe => some .behindBar
  | .behindDot, .ident _ => some .behindPath
  | .behindDot, .int _ => some .behindPath
  | .behindBar, .ident _ => some .behindFilter
  | .behindFilter, .colon => some .value
  | .behindFilter, .pipe => some .behindBar
  | .behindLiteral, .ident _ => if several then some .behindName else none
  | .behindPath, .ident _ => if several then some .behindName else none
  | .behindFilter, .ident _ => if several then some .behindName else none
  | .argument, .ident _ => some .behindName
  | .behindName, .equals => some .value
  | .loop, .ident _ => some .behindVariable
  | .behindVariable, .ident name => if name = "in" then some .value else none
  | .condition, .ident name => if name = "not" then some .value else some .behindPath
  | .condition, t => ofValue t
  | _, _ => none

/-- Whether an expression may end here. -/
def endsValue : Position → Bool
  | .behindLiteral => true
  | .behindPath => true
  | .behindFilter => true
  | _ => false

/-- Whether the tokens of a fragment may end here. -/
def mayEnd (p : Position) : Bool := p.endsValue || p == .argument

/-- Where tokens lead one after another. -/
def walk (several : Bool) : Position → List Placed → Option Position
  | p, [] => some p
  | p, t :: ts => (p.next several t.1).bind fun q => walk several q ts

variable {several : Bool} {p q : Position} {ts us vs : List Placed}

theorem walk_append (p : Position) (us vs : List Placed) :
    walk several p (us ++ vs) = (walk several p us).bind fun q => walk several q vs := by
  induction us generalizing p with
  | nil => rfl
  | cons t us ih =>
    rw [List.cons_append, walk, walk, Option.bind_assoc]
    exact congrArg _ (funext ih)

theorem walk_trans {r : Position} (first : walk several p us = some q)
    (second : walk several q vs = some r) : walk several p (us ++ vs) = some r := by
  rw [walk_append, first]
  exact second

/-- A walk has a start. -/
theorem exists_walk_of_append {r : Position} (h : walk several p (us ++ vs) = some r) :
    ∃ q, walk several p us = some q ∧ walk several q vs = some r := by
  rw [walk_append] at h
  exact Option.bind_eq_some_iff.1 h

/-- Tokens that lead from a position to one where the tokens of a fragment may end. -/
def completion : Position → List Placed
  | .value => [(.ident "x", default)]
  | .behindDot => [(.ident "x", default)]
  | .behindBar => [(.ident "x", default)]
  | .behindName => [(.equals, default), (.ident "x", default)]
  | .loop => [(.ident "x", default), (.ident "in", default), (.ident "x", default)]
  | .behindVariable => [(.ident "in", default), (.ident "x", default)]
  | .condition => [(.ident "x", default)]
  | .behindLiteral => []
  | .behindPath => []
  | .behindFilter => []
  | .argument => []

theorem walk_completion (several : Bool) (p : Position) :
    ∃ q, walk several p p.completion = some q ∧ q.mayEnd = true := by
  cases p <;> exact ⟨_, rfl, rfl⟩

end Position

/-! ## Forms are walks -/

section

variable {several : Bool}

theorem keys_walk (ks : List KeyForm) :
    Position.walk several .behindPath (ks.flatMap KeyForm.tokens) = some .behindPath := by
  induction ks with
  | nil => rfl
  | cons k ks ih =>
    have here : Position.walk several .behindPath k.tokens = some .behindPath := by
      obtain ⟨dot, key, span⟩ := k
      cases key <;> rfl
    exact Position.walk_trans here ih

theorem PrimaryForm.walk (several : Bool) (p : PrimaryForm) :
    ∃ q, Position.walk several .value p.tokens = some q ∧ q.endsValue = true := by
  cases p with
  | string | int | float => exact ⟨.behindLiteral, rfl, rfl⟩
  | path name span ks => exact ⟨.behindPath, keys_walk ks, rfl⟩

/-- A bar may follow wherever an expression may end. -/
theorem next_pipe {p : Position} (h : p.endsValue = true) :
    p.next several .pipe = some .behindBar := by
  cases p with
  | behindLiteral | behindPath | behindFilter => rfl
  | _ => cases h

/-- So may a filter, and a value behind its colon. -/
theorem filter_walk {p : Position} (h : p.endsValue = true) (bar span : Span) (name : String) :
    Position.walk several p [(.pipe, bar), (.ident name, span)] = some .behindFilter := by
  simp only [Position.walk, next_pipe h, Option.bind_some]
  rfl

theorem filter_colon_walk {p : Position} (h : p.endsValue = true) (bar span colon : Span)
    (name : String) :
    Position.walk several p [(.pipe, bar), (.ident name, span), (.colon, colon)] = some .value :=
  Position.walk_trans (filter_walk h bar span name) rfl

theorem CallForm.walk (several : Bool) (c : CallForm) {p : Position} (h : p.endsValue = true) :
    ∃ q, Position.walk several p c.tokens = some q ∧ q.endsValue = true := by
  obtain ⟨bar, name, span, argument⟩ := c
  cases argument with
  | none => exact ⟨.behindFilter, filter_walk h bar span name, rfl⟩
  | some a =>
    obtain ⟨colon, primary⟩ := a
    obtain ⟨q, read, ends⟩ := primary.walk several
    exact ⟨q, Position.walk_trans (filter_colon_walk h bar span colon name) read, ends⟩

theorem calls_walk (several : Bool) (cs : List CallForm) {p : Position}
    (h : p.endsValue = true) :
    ∃ q, Position.walk several p (cs.flatMap CallForm.tokens) = some q ∧ q.endsValue = true := by
  induction cs generalizing p with
  | nil => exact ⟨p, rfl, h⟩
  | cons c cs ih =>
    obtain ⟨q, first, ends⟩ := c.walk several h
    obtain ⟨r, rest, last⟩ := ih ends
    exact ⟨r, Position.walk_trans first rest, last⟩

theorem ExprForm.walk (several : Bool) (e : ExprForm) :
    ∃ q, Position.walk several .value e.tokens = some q ∧ q.endsValue = true := by
  obtain ⟨p, first, ends⟩ := e.primary.walk several
  obtain ⟨q, rest, last⟩ := calls_walk several e.calls ends
  exact ⟨q, Position.walk_trans first rest, last⟩

theorem mayEnd_of_endsValue {p : Position} (h : p.endsValue = true) : p.mayEnd = true := by
  rw [Position.mayEnd, h, Bool.true_or]

/-- A name may follow wherever arguments may end. -/
theorem next_name {p : Position} (h : p.mayEnd = true) (name : String) :
    p.next true (.ident name) = some .behindName := by
  cases p with
  | behindLiteral | behindPath | behindFilter | argument => rfl
  | _ => cases h

/-- A value may follow behind its name. -/
theorem name_equals_walk {p : Position} (h : p.mayEnd = true) (span equals : Span)
    (name : String) :
    Position.walk true p [(.ident name, span), (.equals, equals)] = some .value := by
  simp only [Position.walk, next_name h, Option.bind_some]
  rfl

theorem arguments_walk (as : List ArgumentForm) {p : Position} (h : p.mayEnd = true) :
    ∃ q, Position.walk true p (as.flatMap ArgumentForm.tokens) = some q ∧ q.mayEnd = true := by
  induction as generalizing p with
  | nil => exact ⟨p, rfl, h⟩
  | cons a as ih =>
    obtain ⟨q, value, ends⟩ := a.value.walk true
    have here : Position.walk true p a.tokens = some q := by
      rw [ArgumentForm.tokens, Position.walk, next_name h]
      exact value
    obtain ⟨r, rest, last⟩ := ih (mayEnd_of_endsValue ends)
    exact ⟨r, Position.walk_trans here rest, last⟩

theorem ExprForm.walk_mayEnd (several : Bool) (e : ExprForm) :
    ∃ q, Position.walk several .value e.tokens = some q ∧ q.mayEnd = true := by
  obtain ⟨q, walked, ends⟩ := e.walk several
  exact ⟨q, walked, mayEnd_of_endsValue ends⟩

theorem LoopForm.walk (f : LoopForm) :
    ∃ q, Position.walk false .loop f.tokens = some q ∧ q.mayEnd = true := by
  obtain ⟨q, value, ends⟩ := f.iterable.walk_mayEnd false
  exact ⟨q, value, ends⟩

/-- Without the word that negates, a condition goes on as an expression does. -/
theorem walk_condition {ts : List Placed} (nonempty : ts ≠ []) (plain : Avoids (.ident "not") ts) :
    Position.walk false .condition ts = Position.walk false .value ts := by
  cases ts with
  | nil => exact absurd rfl nonempty
  | cons t ts =>
    obtain ⟨token, span⟩ := t
    have same : Position.next false .condition token = Position.next false .value token := by
      cases token with
      | ident name =>
        have other : name ≠ "not" := by
          rintro rfl
          exact plain span ts rfl
        exact if_neg other
      | _ => rfl
    rw [Position.walk, Position.walk, same]

theorem ConditionForm.walk (f : ConditionForm) :
    ∃ q, Position.walk false .condition f.tokens = some q ∧ q.mayEnd = true := by
  obtain ⟨negation, e, plain⟩ := f
  obtain ⟨q, value, ends⟩ := e.walk_mayEnd false
  refine ⟨q, ?_, ends⟩
  cases negation with
  | some span => exact value
  | none => exact (walk_condition e.tokens_ne (plain rfl)).trans value

end

/-! ## Where readers get stuck -/

/-- There is no way on from a position: it is no end, if nothing follows, and no token leads on. -/
def Position.Halts (several : Bool) (p : Position) : List Placed → Prop
  | [] => p.mayEnd = false
  | t :: _ => p.next several t.1 = none

theorem Position.halts_of_forall {several : Bool} {p : Position} {ts : List Placed}
    (unfinished : p.mayEnd = false)
    (none : ∀ token span rest, ts = (token, span) :: rest → p.next several token = none) :
    p.Halts several ts := by
  cases ts with
  | nil => exact unfinished
  | cons t rest => exact none t.1 t.2 rest rfl

/-- No walk goes on where the next token does not lead on. -/
theorem Position.Halts.walk_eq_none {several : Bool} {p q : Position} {us rest : List Placed}
    {t : Placed} (halts : q.Halts several (t :: rest))
    (walked : Position.walk several p us = some q) (more : List Placed) :
    Position.walk several p (us ++ t :: more) = none := by
  have never : q.next several t.1 = none := halts
  rw [Position.walk_append, walked, Option.bind_some, Position.walk, never, Option.bind_none]

/-- Tokens lead from a position to one that has a property together with the tokens that are
left. -/
def Reaches (several : Bool) (p : Position) (ts rest : List Placed)
    (P : Position → List Placed → Prop) : Prop :=
  ∃ us q, ts = us ++ rest ∧ Position.walk several p us = some q ∧ P q rest

/-- Where a reader gets stuck that starts at a position, there is no way on; what it reads has a
property. -/
def Advances {α : Type} (several : Bool) (p : Position) (ts : List Placed) (P : α → Prop) :
    Except Stuck α → Prop
  | .ok a => P a
  | .error s => Reaches several p ts s.rest (Position.Halts several)

section

variable {several : Bool} {p q : Position} {ts us rest : List Placed} {stop : Nat}
  {next : List Expectation} {α β : Type} {P : α → Prop} {Q : β → Prop}

namespace Reaches

variable {R : Position → List Placed → Prop}

theorem here (h : R p ts) : Reaches several p ts ts R := ⟨[], p, rfl, rfl, h⟩

theorem mono {R' : Position → List Placed → Prop} (h : Reaches several p ts rest R)
    (imp : ∀ q rest, R q rest → R' q rest) : Reaches several p ts rest R' := by
  obtain ⟨us, q, split, walked, there⟩ := h
  exact ⟨us, q, split, walked, imp q rest there⟩

/-- What is reached behind some tokens is reached from the position before them. -/
theorem behind (h : Reaches several q ts rest R)
    (first : Position.walk several p us = some q) : Reaches several p (us ++ ts) rest R := by
  obtain ⟨vs, r, rfl, second, there⟩ := h
  exact ⟨us ++ vs, r, (List.append_assoc _ _ _).symm, Position.walk_trans first second, there⟩

end Reaches

/-- A reader that reads a part of the tokens gets stuck where there is no way on, or leaves tokens
in front of which it has reached a position with a property. -/
abbrev Leaves (several : Bool) (p : Position) (ts : List Placed)
    (R : Position → List Placed → Prop) : Except Stuck (Reading α) → Prop :=
  Advances several p ts fun r => Reaches several p ts r.rest R

/-- A reader may start behind tokens that are read, and change what it gives but not what it
leaves. -/
theorem Leaves.onward {R R' : Position → List Placed → Prop} {x : Except Stuck (Reading α)}
    {f : Reading α → Reading β} (h : Leaves several q ts R x)
    (first : Position.walk several p us = some q) (imp : ∀ r rest, R r rest → R' r rest)
    (keeps : ∀ r, (f r).rest = r.rest) : Leaves several p (us ++ ts) R' (x.map f) := by
  cases x with
  | error s => exact Reaches.behind h first
  | ok r =>
    have there : Reaches several p (us ++ ts) r.rest R' := (h.mono imp).behind first
    rw [← keeps r] at there
    exact there

/-- What is left behind a path starts with no dot, and behind the name of a filter with no colon. -/
structure Position.Settled (p : Position) (rest : List Placed) : Prop where
  ends : p.endsValue = true
  path : p = .behindPath → Avoids .dot rest
  filter : p = .behindFilter → Avoids .colon rest

/-- Behind an expression, nothing is left that goes on with it. -/
structure Position.Complete (p : Position) (rest : List Placed) : Prop extends
    p.Settled rest where
  pipe : Avoids .pipe rest

/-- No token leads on from the end of an expression, apart from a name where arguments may
follow. -/
theorem Position.Complete.next_eq_none {t : Placed} (h : p.Complete (t :: rest))
    (nameless : several = true → ∀ name, t.1 ≠ .ident name) : p.next several t.1 = none := by
  obtain ⟨token, span⟩ := t
  have ends := h.ends
  have dot : token = .dot → p ≠ .behindPath := by
    rintro rfl rfl
    exact h.path rfl span rest rfl
  have colon : token = .colon → p ≠ .behindFilter := by
    rintro rfl rfl
    exact h.filter rfl span rest rfl
  have pipe : token ≠ .pipe := by
    rintro rfl
    exact h.pipe span rest rfl
  have ident : ∀ name, token = .ident name → several = false := by
    intro name here
    cases several with
    | true => exact absurd here (nameless rfl name)
    | false => rfl
  cases p with
  | behindLiteral =>
    cases token with
    | pipe => exact absurd rfl pipe
    | ident name => exact ident name rfl ▸ rfl
    | _ => rfl
  | behindPath =>
    cases token with
    | pipe => exact absurd rfl pipe
    | dot => exact absurd rfl (dot rfl)
    | ident name => exact ident name rfl ▸ rfl
    | _ => rfl
  | behindFilter =>
    cases token with
    | pipe => exact absurd rfl pipe
    | colon => exact absurd rfl (colon rfl)
    | ident name => exact ident name rfl ▸ rfl
    | _ => rfl
  | _ => cases ends

/-! ### Expressions -/

/-- Behind a path, no dot is left. -/
def Position.EndsPath (p : Position) (rest : List Placed) : Prop :=
  p = .behindPath ∧ Avoids .dot rest

theorem keys_leaves : Leaves several .behindPath ts Position.EndsPath (keys stop ts) := by
  fun_induction keys stop ts with
  | case1 stop dot name span rest ih =>
    have step : Position.walk several .behindPath [(.dot, dot), (.ident name, span)] =
        some .behindPath := rfl
    exact Leaves.onward ih step (fun _ _ => id) fun _ => rfl
  | case2 stop dot n span rest ih =>
    have step : Position.walk several .behindPath [(.dot, dot), (.int n, span)] =
        some .behindPath := rfl
    exact Leaves.onward ih step (fun _ _ => id) fun _ => rfl
  | case3 stop dot rest noName noIndex =>
    refine ⟨[(.dot, dot)], .behindDot, rfl, rfl, Position.halts_of_forall rfl ?_⟩
    rintro token span rest rfl
    cases token with
    | ident name => exact absurd rfl (noName name span rest)
    | int n => exact absurd rfl (noIndex n span rest)
    | _ => rfl
  | case4 stop ts _ _ other =>
    have noDot : Avoids .dot ts := other
    exact .here ⟨rfl, noDot⟩

theorem primary_leaves (several : Bool) (ts : List Placed) :
    Leaves several .value ts Position.Settled (primary ts) := by
  have literal (token : Token) (span : Span) (rest : List Placed)
      (leads : Position.next several .value token = some .behindLiteral) :
      Reaches several .value ((token, span) :: rest) rest Position.Settled := by
    refine ⟨[(token, span)], .behindLiteral, rfl, ?_, rfl, by rintro ⟨⟩, by rintro ⟨⟩⟩
    rw [Position.walk, leads]
    rfl
  unfold primary
  split
  · exact literal _ _ _ rfl
  · exact literal _ _ _ rfl
  · exact literal _ _ _ rfl
  · rename_i name span rest
    have step : Position.walk several .value [(.ident name, span)] = some .behindPath := rfl
    have settled : ∀ q rest, Position.EndsPath q rest → q.Settled rest := by
      rintro q rest ⟨rfl, noDot⟩
      exact ⟨rfl, fun _ => noDot, by rintro ⟨⟩⟩
    exact Leaves.onward keys_leaves step settled fun _ => rfl
  · rename_i noString noInt noFloat noName
    refine .here (Position.halts_of_forall rfl ?_)
    rintro token span ts rfl
    cases token with
    | string s => exact absurd rfl (noString s span ts)
    | int n => exact absurd rfl (noInt n span ts)
    | float x => exact absurd rfl (noFloat x span ts)
    | ident name => exact absurd rfl (noName name span ts)
    | _ => rfl

theorem filters_leaves (stop : Nat) (next : List Expectation) (h : p.Settled ts) :
    Leaves several p ts Position.Complete (filters stop next ts) := by
  fun_induction filters stop next ts generalizing p with
  | case1 stop next bar name span colon rest failure failed =>
    have stuck := primary_leaves several rest
    rw [failed] at stuck
    exact Reaches.behind stuck (filter_colon_walk h.ends bar span colon name)
  | case2 stop next bar name span colon rest r read ih =>
    have argument := primary_leaves several rest
    rw [read] at argument
    obtain ⟨us, q, split, walked, settled⟩ := argument
    have steps := Position.walk_trans (filter_colon_walk h.ends bar span colon name) walked
    have more := Leaves.onward (f := fun more =>
      { more with value := ⟨name, some r.value, ⟨bar.start, r.stop⟩⟩ :: more.value })
      (ih settled) steps (fun _ _ => id) fun _ => rfl
    rw [List.append_assoc, ← split] at more
    exact more
  | case3 stop next bar name span rest other ih =>
    have settled : Position.Settled .behindFilter rest := ⟨rfl, by rintro ⟨⟩, fun _ => other⟩
    exact Leaves.onward (ih settled) (filter_walk h.ends bar span name) (fun _ _ => id) fun _ => rfl
  | case4 stop next bar rest noName =>
    refine ⟨[(.pipe, bar)], .behindBar, rfl, ?_, Position.halts_of_forall rfl ?_⟩
    · simp only [Position.walk, next_pipe h.ends, Option.bind_some]
    · rintro token span rest rfl
      cases token with
      | ident name => exact absurd rfl (noName name span rest)
      | _ => rfl
  | case5 stop next ts _ other =>
    have noBar : Avoids .pipe ts := other
    exact .here ⟨h, noBar⟩

theorem expression_leaves (several : Bool) (ts : List Placed) :
    Leaves several .value ts Position.Complete (expression ts) := by
  have first := primary_leaves several ts
  unfold expression
  split
  · rename_i failure failed
    rw [failed] at first
    exact first
  · rename_i r read
    rw [read] at first
    obtain ⟨us, q, split, walked, settled⟩ := first
    have more := Leaves.onward (f := fun more : Reading (List FilterCall) =>
      (⟨⟨r.value, more.value, ⟨startOf ts, more.stop⟩⟩, more.stop, more.rest, more.next⟩ :
        Reading Draft)) (filters_leaves r.stop r.next settled) walked
      (fun _ _ => id) fun _ => rfl
    rw [← split] at more
    exact more

/-! ### Fragments -/

/-- Where a reader of all tokens gets stuck, there is no way on. -/
def Halting (several : Bool) (p : Position) (reader : List Placed → Except Stuck α) : Prop :=
  ∀ ts s, reader ts = .error s → Reaches several p ts s.rest (Position.Halts several)

theorem expression_halts (several : Bool) {s : Stuck} (stuck : expression ts = .error s) :
    Reaches several .value ts s.rest (Position.Halts several) := by
  have read := expression_leaves several ts
  rw [stuck] at read
  exact read

/-- Nothing may be left behind an expression. -/
theorem finish_halts {r : Reading Draft} {s : Stuck} (read : expression ts = .ok r)
    (stuck : finish r = .error s) : Reaches false .value ts s.rest (Position.Halts false) := by
  have leaves := expression_leaves false ts
  rw [read] at leaves
  unfold finish at stuck
  split at stuck
  · cases stuck
  · rename_i left
    cases stuck
    obtain ⟨us, q, split, walked, whole⟩ := leaves
    refine ⟨us, q, split, walked, ?_⟩
    cases rest : r.rest with
    | nil => simp [rest] at left
    | cons t ts =>
      rw [rest] at whole
      exact whole.next_eq_none (by rintro ⟨⟩)

theorem alone_halts : Halting false .value alone := by
  intro ts s stuck
  unfold alone at stuck
  split at stuck
  · rename_i failed
    cases stuck
    exact expression_halts _ failed
  · rename_i read
    exact finish_halts read stuck

theorem loopHeader_halts : Halting false .loop loopHeader := by
  intro ts s stuck
  unfold loopHeader at stuck
  split at stuck
  · rename_i name span rest
    split at stuck
    · rename_i word rest
      have step : Position.walk false .loop [(.ident name, span), (.ident "in", word)] =
          some .value := rfl
      split at stuck
      · rename_i failed
        cases stuck
        exact (expression_halts _ failed).behind step
      · rename_i read
        exact (finish_halts read (map_eq_error_iff.1 stuck)).behind step
    · rename_i other
      cases stuck
      refine ⟨[(.ident name, span)], .behindVariable, rfl, rfl, Position.halts_of_forall rfl ?_⟩
      rintro token place rest rfl
      cases token with
      | ident word =>
        have not : word ≠ "in" := by
          rintro rfl
          exact other place rest rfl
        exact if_neg not
      | _ => rfl
  · rename_i other
    cases stuck
    refine .here (Position.halts_of_forall rfl ?_)
    rintro token span ts rfl
    cases token with
    | ident name => exact absurd rfl (other name span ts)
    | _ => rfl

theorem condition_halts : Halting false .condition condition := by
  intro ts s stuck
  unfold condition at stuck
  split at stuck
  · rename_i span rest
    have step : Position.walk false .condition [(.ident "not", span)] = some .value := rfl
    split at stuck
    · rename_i failed
      cases stuck
      exact (expression_halts _ failed).behind step
    · rename_i read
      exact (finish_halts read (map_eq_error_iff.1 stuck)).behind step
  · rename_i plain
    have reached : Reaches false .value ts s.rest (Position.Halts false) := by
      split at stuck
      · rename_i failure failed
        have halts := expression_halts false failed
        cases stuck
        split
        · exact halts
        · exact halts
      · rename_i read
        exact finish_halts read (map_eq_error_iff.1 stuck)
    obtain ⟨us, q, rfl, walked, halts⟩ := reached
    cases us with
    | nil =>
      -- nothing is read, and what does not start an expression does not negate either
      cases walked
      refine .here (Position.halts_of_forall rfl fun token span rest left => ?_)
      rw [← List.nil_append s.rest, left] at halts
      cases token with
      | ident name => cases halts
      | _ => exact halts
    | cons t us =>
      have plainRead : Avoids (.ident "not") (t :: us) := by
        rintro span more e
        exact plain span (more ++ s.rest) (by rw [e]; rfl)
      have walked' := (walk_condition (List.cons_ne_nil t us) plainRead).trans walked
      exact ⟨t :: us, q, rfl, walked', halts⟩

theorem arguments_halts (next : List Expectation) : Halting true .argument (arguments next) := by
  have from_ (p : Position) (ts : List Placed) (ready : p = .argument ∨ p.Complete ts) (s : Stuck)
      (stuck : arguments next ts = .error s) :
      Reaches true p ts s.rest (Position.Halts true) := by
    have mayEnd {p : Position} {ts : List Placed} (ready : p = .argument ∨ p.Complete ts) :
        p.mayEnd = true := by
      obtain rfl | whole := ready
      · rfl
      · exact mayEnd_of_endsValue whole.ends
    fun_induction arguments next ts generalizing p with
    | case1 => cases stuck
    | case2 next name span equals rest failure failed =>
      cases stuck
      exact (expression_halts _ failed).behind (name_equals_walk (mayEnd ready) span equals name)
    | case3 next name span equals rest r read ih =>
      have step := name_equals_walk (mayEnd ready) span equals name
      have leaves := expression_leaves true rest
      rw [read] at leaves
      obtain ⟨us, q, split, walked, whole⟩ := leaves
      have more := ih q (.inr whole) (map_eq_error_iff.1 stuck)
      have steps := more.behind (Position.walk_trans step walked)
      rw [List.append_assoc, ← split] at steps
      exact steps
    | case4 next name span rest other =>
      cases stuck
      refine ⟨[(.ident name, span)], .behindName, rfl, ?_, Position.halts_of_forall rfl ?_⟩
      · simp only [Position.walk, next_name (mayEnd ready), Option.bind_some]
      · rintro token place rest rfl
        cases token with
        | equals => exact absurd rfl (other place rest)
        | _ => rfl
    | case5 next ts nonempty nameless =>
      cases stuck
      refine .here ?_
      cases ts with
      | nil => exact absurd rfl nonempty
      | cons t ts =>
        have noName : ∀ name, t.1 ≠ .ident name := by
          intro name e
          exact nameless name t.2 ts (by rw [← e])
        obtain rfl | whole := ready
        · obtain ⟨token, span⟩ := t
          cases token with
          | ident name => exact absurd rfl (noName name)
          | _ => rfl
        · exact whole.next_eq_none fun _ => noName
  intro ts s stuck
  exact from_ .argument ts (.inl rfl) s stuck

end

/-! ## The start of a form -/

/-- Some form of a grammar starts with tokens. -/
def Starts {Form : Type} (tokens : Form → List Placed) (ts : List Placed) : Prop :=
  ∃ f rest, tokens f = ts ++ rest

/-- A token is the first one with which no form goes on. -/
structure FirstFault {Form : Type} (tokens : Form → List Placed) (before : List Placed)
    (t : Placed) : Prop where
  starts : Starts tokens before
  ends : ¬ Starts tokens (before ++ [t])

section

variable {Form Raw : Type} {tokens : Form → List Placed} {draft : Form → Raw} {several : Bool}
  {start : Position} {reader : List Placed → Except Stuck Raw}

theorem Starts.of_append {us vs : List Placed} (h : Starts tokens (us ++ vs)) :
    Starts tokens us := by
  obtain ⟨f, rest, spelled⟩ := h
  exact ⟨f, vs ++ rest, by rw [spelled, List.append_assoc]⟩

theorem FirstFault.not_starts {before : List Placed} {t : Placed}
    (h : FirstFault tokens before t) (after : List Placed) :
    ¬ Starts tokens (before ++ t :: after) := by
  rw [List.append_cons]
  exact fun more => h.ends more.of_append

/-- Tokens are the start of a form where they lead on from position to position. -/
theorem starts_iff
    (walks : ∀ f, ∃ q, Position.walk several start (tokens f) = some q ∧ q.mayEnd = true)
    (reads : ∀ ts raw, reader ts = .ok raw ↔ ∃ f, tokens f = ts ∧ draft f = raw)
    (halting : Halting several start reader) {ts : List Placed} :
    Starts tokens ts ↔ ∃ q, Position.walk several start ts = some q := by
  constructor
  · rintro ⟨f, rest, spelled⟩
    obtain ⟨q, walked, -⟩ := walks f
    rw [spelled] at walked
    obtain ⟨p, first, -⟩ := Position.exists_walk_of_append walked
    exact ⟨p, first⟩
  · rintro ⟨q, walked⟩
    obtain ⟨r, more, ends⟩ := q.walk_completion several
    have whole := Position.walk_trans walked more
    cases result : reader (ts ++ q.completion) with
    | ok raw =>
      obtain ⟨f, spelled, -⟩ := (reads _ raw).1 result
      exact ⟨f, q.completion, spelled⟩
    | error s =>
      -- the reader cannot be stuck, since there is a way on to the end
      obtain ⟨us, p, split, first, halts⟩ := halting _ s result
      rw [split] at whole
      cases rest : s.rest with
      | nil =>
        rw [rest, List.append_nil, first] at whole
        rw [rest] at halts
        obtain rfl : p = r := Option.some.inj whole
        have never : p.mayEnd = false := halts
        exact absurd ends (by rw [never]; exact Bool.false_ne_true)
      | cons t rest' =>
        rw [rest] at halts whole
        rw [halts.walk_eq_none first] at whole
        cases whole

/-- What a reader blames in tokens that are no form: the end of the fragment, if they are the start
of a form, and else the first token with which no form goes on. -/
structure BlamesFirst {Tree : Type} (tokens : Form → List Placed) (site : Site) (ts : List Placed)
    (read : Except TagError Tree) : Prop where
  behind : Starts tokens ts → ∃ expected,
    read = .error (site.error ⟨site.stop, site.stop⟩ (.unexpected none expected))
  first : ¬ Starts tokens ts → ∃ before t after, ts = before ++ t :: after ∧
    FirstFault tokens before t
  blamed : ∀ before t after, ts = before ++ t :: after → FirstFault tokens before t →
    ∃ expected, read = .error (site.error t.2 (.unexpected (some t.1) expected))

/-- Where a start of a form goes on to the first fault, no other token is the first fault. -/
theorem FirstFault.unique {before before' after after' : List Placed} {t t' : Placed}
    (h : FirstFault tokens before t) (h' : FirstFault tokens before' t')
    (same : before ++ t :: after = before' ++ t' :: after') : before = before' ∧ t = t' := by
  obtain ⟨more, rfl, rest⟩ | ⟨more, rfl, rest⟩ := List.append_eq_append_iff.1 same
  · cases more with
    | nil => exact ⟨(List.append_nil _).symm, (List.cons.inj rest).1⟩
    | cons u more =>
      obtain ⟨rfl, -⟩ := List.cons.inj rest
      exact absurd h'.starts (h.not_starts more)
  · cases more with
    | nil => exact ⟨List.append_nil _, (List.cons.inj rest).1.symm⟩
    | cons u more =>
      obtain ⟨rfl, -⟩ := List.cons.inj rest
      exact absurd h.starts (h'.not_starts more)

/-- A reader of forms that are walks blames the first token that cannot continue. -/
theorem blamesFirst_of_reader {Tree : Type} (site : Site) {text : String} {ts : List Placed}
    {check : Raw → Except TagError Tree} (holds : site.Holds text)
    (lexed : lex text site.start = .ok ts) (outside : ∀ f, tokens f ≠ ts)
    (walks : ∀ f, ∃ q, Position.walk several start (tokens f) = some q ∧ q.mayEnd = true)
    (reads : ∀ ts raw, reader ts = .ok raw ↔ ∃ f, tokens f = ts ∧ draft f = raw)
    (halting : Halting several start reader) :
    BlamesFirst tokens site ts (readAll site text reader >>= check) := by
  have leads {us : List Placed} : Starts tokens us ↔
      ∃ q, Position.walk several start us = some q := starts_iff walks reads halting
  obtain ⟨s, stuck⟩ : ∃ s, reader ts = .error s := by
    cases result : reader ts with
    | error s => exact ⟨s, rfl⟩
    | ok raw =>
      obtain ⟨f, spelled, -⟩ := (reads ts raw).1 result
      exact absurd spelled (outside f)
  obtain ⟨us, q, split, walked, halts⟩ := halting ts s stuck
  have failed : readAll site text reader >>= check = .error (s.error site ts) := by
    rw [readAll, lexed]
    simp only [stuck]
    rfl
  have starts : Starts tokens us := leads.2 ⟨q, walked⟩
  cases rest : s.rest with
  | nil =>
    rw [rest, List.append_nil] at split
    subst split
    have blames : s.error site ts =
        site.error ⟨site.stop, site.stop⟩ (.unexpected none s.expected) := by
      rw [Stuck.error, rest, site.behind_eq holds lexed]
    refine ⟨fun _ => ⟨s.expected, by rw [failed, blames]⟩, fun no => absurd starts no, ?_⟩
    rintro before t after rfl fault
    exact absurd starts (fault.not_starts after)
  | cons t after =>
    rw [rest] at split halts
    have noWay : ¬ Starts tokens (us ++ [t]) := by
      intro more
      obtain ⟨r, through⟩ := leads.1 more
      rw [halts.walk_eq_none walked] at through
      cases through
    have fault : FirstFault tokens us t := ⟨starts, noWay⟩
    have blames : s.error site ts = site.error t.2 (.unexpected (some t.1) s.expected) := by
      rw [Stuck.error, rest]
    refine ⟨fun whole => ?_, fun _ => ⟨us, t, after, split, fault⟩, ?_⟩
    · rw [split] at whole
      exact absurd whole (fault.not_starts after)
    · intro before t' after' split' fault'
      obtain ⟨-, rfl⟩ := fault.unique fault' (split.symm.trans split')
      exact ⟨s.expected, by rw [failed, blames]⟩

end

end Grammar

open Argument Grammar

/-- The readers of tags and variables blame the first token that cannot continue. If the tokens of a
text that no blank ends have no form, there is an error before any filter is checked. If some form
starts with all of them, it is at the empty place at the end of the text. Else there is a first
token with which no form goes on, and the error is at its place. -/
theorem readers_blame_first :
    (∀ (t : Tag) ts, (∀ c ∈ t.args.toList.getLast?, Text.isBlank c = false) →
      lex t.args t.argsOffset = .ok ts →
      ((∀ as, List.flatMap ArgumentForm.tokens as ≠ ts) →
        BlamesFirst (List.flatMap ArgumentForm.tokens) (tagSite t) ts t.keywordArguments) ∧
      ((∀ f, LoopForm.tokens f ≠ ts) →
        BlamesFirst LoopForm.tokens (tagSite t) ts t.loopHeader) ∧
      ((∀ f, ConditionForm.tokens f ≠ ts) →
        BlamesFirst ConditionForm.tokens (tagSite t) ts t.condition)) ∧
    ∀ contents offset line ts, (∀ c ∈ contents.toList.getLast?, Text.isBlank c = false) →
      lex contents offset = .ok ts → (∀ e, ExprForm.tokens e ≠ ts) →
      BlamesFirst ExprForm.tokens (variableSite contents offset line) ts
        (Expr.ofVariable contents offset line) := by
  refine ⟨fun t ts ink lexed => ⟨?_, ?_, ?_⟩, fun contents offset line ts ink lexed => ?_⟩
  · intro outside
    exact blamesFirst_of_reader (tagSite t) ⟨rfl, ink⟩ lexed outside
      (fun as => arguments_walk as rfl) (fun _ _ => arguments_iff) (arguments_halts [])
  · intro outside
    exact blamesFirst_of_reader (tagSite t) ⟨rfl, ink⟩ lexed outside LoopForm.walk
      (fun _ _ => loopHeader_iff) loopHeader_halts
  · intro outside
    exact blamesFirst_of_reader (tagSite t) ⟨rfl, ink⟩ lexed outside ConditionForm.walk
      (fun _ _ => condition_iff) condition_halts
  · intro outside
    exact blamesFirst_of_reader (variableSite contents offset line) ⟨rfl, ink⟩ lexed outside
      (ExprForm.walk_mayEnd false) (fun _ _ => alone_iff) alone_halts

/-- A filter's argument that is a text has no keys, so that the dot behind it cannot continue; and
behind a colon an argument has to come. -/
theorem readers_blame_first_dot :
    let tag : Tag := ⟨"card a=x|default:'é'.b c", 3, ⟨0, 33⟩, 1⟩
    let start : List Placed := [(.ident "a", ⟨8, 9⟩), (.equals, ⟨9, 10⟩), (.ident "x", ⟨10, 11⟩),
      (.pipe, ⟨11, 12⟩), (.ident "default", ⟨12, 19⟩), (.colon, ⟨19, 20⟩),
      (.string "é", ⟨20, 24⟩)]
    let rest : List Placed := [(.ident "b", ⟨25, 26⟩), (.ident "c", ⟨27, 28⟩)]
    let colon : List Placed := [(.ident "x", ⟨3, 4⟩), (.pipe, ⟨4, 5⟩), (.ident "upper", ⟨5, 10⟩),
      (.colon, ⟨10, 11⟩)]
    (lex tag.args tag.argsOffset = .ok (start ++ (.dot, ⟨24, 25⟩) :: rest) ∧
      FirstFault (List.flatMap ArgumentForm.tokens) start (.dot, ⟨24, 25⟩) ∧
      ∃ expected, tag.keywordArguments =
        .error ⟨"card", ⟨24, 25⟩, 1, .unexpected (some .dot) expected⟩) ∧
    (lex "x|upper:" 3 = .ok colon ∧ Starts ExprForm.tokens colon ∧
      ∃ expected, Expr.ofVariable "x|upper:" 3 1 =
        .error ⟨"{{ x|upper: }}", ⟨11, 11⟩, 1, .unexpected none expected⟩) := by
  intro tag start rest colon
  constructor
  · have lexed : lex tag.args tag.argsOffset = .ok (start ++ (.dot, ⟨24, 25⟩) :: rest) := by
      decide +kernel
    have outside : ∀ as,
        List.flatMap ArgumentForm.tokens as ≠ start ++ (.dot, ⟨24, 25⟩) :: rest := by
      intro as spelled
      obtain ⟨q, walked, -⟩ := arguments_walk as (p := .argument) rfl
      rw [spelled] at walked
      cases walked
    have leads {us : List Placed} : Starts (List.flatMap ArgumentForm.tokens) us ↔
        ∃ q, Position.walk true .argument us = some q :=
      starts_iff (fun as => arguments_walk as rfl) (fun _ _ => arguments_iff) (arguments_halts [])
    have fault : FirstFault (List.flatMap ArgumentForm.tokens) start (.dot, ⟨24, 25⟩) := by
      refine ⟨leads.2 ⟨.behindLiteral, rfl⟩, fun more => ?_⟩
      obtain ⟨q, walked⟩ := leads.1 more
      cases walked
    have last : tag.args.toList.getLast? = some 'c' := by decide +kernel
    have ink : ∀ c ∈ tag.args.toList.getLast?, Text.isBlank c = false := by
      rw [last]
      rintro _ ⟨⟩
      decide
    have blames := (readers_blame_first.1 tag _ ink lexed).1 outside
    have named : tag.name = "card" := by decide +kernel
    have blamed := blames.blamed start _ rest rfl fault
    simp only [Site.error, tagSite, named] at blamed
    exact ⟨lexed, fault, blamed⟩
  · have lexed : lex "x|upper:" 3 = .ok colon := by decide +kernel
    have outside : ∀ e, ExprForm.tokens e ≠ colon := by
      intro e spelled
      obtain ⟨q, walked, ends⟩ := e.walk false
      rw [spelled] at walked
      cases walked
      cases ends
    have leads : Starts ExprForm.tokens colon ↔
        ∃ q, Position.walk false .value colon = some q :=
      starts_iff (ExprForm.walk_mayEnd false) (fun _ _ => alone_iff) alone_halts
    have starts : Starts ExprForm.tokens colon := leads.2 ⟨.value, rfl⟩
    have last : "x|upper:".toList.getLast? = some ':' := by decide +kernel
    have ink : ∀ c ∈ "x|upper:".toList.getLast?, Text.isBlank c = false := by
      rw [last]
      rintro _ ⟨⟩
      decide
    have blames := readers_blame_first.2 "x|upper:" 3 1 colon ink lexed outside
    exact ⟨lexed, starts, blames.behind starts⟩

end SlotTemplate
