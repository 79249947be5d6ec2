import SlotTemplate.Proofs.Argument.Blame
import SlotTemplate.Proofs.Argument.Recognition
import SlotTemplate.Proofs.Argument.Steps

/-!
# A filter behind an expression

A filter may be written behind any expression that stands alone. What was read before is read again:
a bar starts a token of its own, and the filter is the last one.

* `lexFrom_bar`: a text has the same tokens before a bar;
* `alone_filter`: an expression before a filter is the same expression with one more filter;
* `Expr.ofVariable_filter`: so are the contents of a variable.
-/

namespace SlotTemplate

namespace Argument

/-! ## Tokens before a bar -/

variable {afterDot : Bool} {cs : List Char}

/-- A text has the same tokens before a bar. -/
theorem lexFrom_bar {pos : Nat} {placed : List Placed} (h : lexFrom pos afterDot cs = .ok placed)
    (u : List Char) :
    lexFrom pos afterDot (cs ++ '|' :: u) =
      (lexFrom (pos + Text.byteSize cs) false ('|' :: u)).map (placed ++ ·) := by
  fun_induction lexFrom pos afterDot cs generalizing placed with
  | case1 pos afterDot =>
    cases h
    have bar (afterDot : Bool) : step afterDot '|' u = .tokens [(.pipe, ['|'])] u := rfl
    rw [List.nil_append, lexFrom_tokens (bar afterDot), Text.byteSize_nil, Nat.add_zero,
      lexFrom_tokens (bar false)]
    cases lexFrom (pos + Text.byteSize (spelled [(Token.pipe, ['|'])])) _ u <;> rfl
  | case2 pos afterDot c cs c' rest read ih =>
    have gap : step afterDot c (cs ++ '|' :: u) = .gap c (cs ++ '|' :: u) := by
      rw [step, if_pos (isGap_of_step read)]
    rw [List.cons_append, lexFrom_gap gap, ih h, Text.byteSize_cons, Nat.add_assoc]
  | case3 pos afterDot c cs ts rest read more lexed ih =>
    cases h
    have size := congrArg Text.byteSize (step_tokens read).1
    rw [Text.byteSize_append] at size
    rw [List.cons_append, lexFrom_tokens (step_before read u), ih lexed, size, Nat.add_assoc]
    cases lexFrom _ false ('|' :: u) with
    | error span => rfl
    | ok last => exact congrArg Except.ok (List.append_assoc _ _ _).symm
  | case4 => cases h
  | case5 => cases h

end Argument

/-! ## Readings before a filter -/

namespace Grammar

open Argument

/-- The tokens of a filter without argument. -/
def filterTokens (name : String) (bar span : Span) : List Placed :=
  [(.pipe, bar), (.ident name, span)]

variable {ts : List Placed} {name : String} {bar span : Span}

/-- A draft with a filter behind it. -/
def Draft.filter (d : Draft) (name : String) (bar span : Span) : Draft :=
  ⟨d.primary, d.calls ++ [⟨name, none, ⟨bar.start, span.stop⟩⟩], ⟨d.span.start, span.stop⟩⟩

theorem alone_filter {d : Draft} (h : alone ts = .ok d) :
    alone (ts ++ filterTokens name bar span) = .ok (d.filter name bar span) := by
  obtain ⟨⟨primary, calls⟩, rfl, rfl⟩ := alone_iff.1 h
  let filtered : ExprForm := ⟨primary, calls ++ [⟨bar, name, span, none⟩]⟩
  have tokens : filtered.tokens =
      ExprForm.tokens ⟨primary, calls⟩ ++ filterTokens name bar span := by
    rw [ExprForm.tokens, List.flatMap_append, ← List.append_assoc]
    rfl
  have start := startOf_append (ExprForm.tokens_ne ⟨primary, calls⟩) (filterTokens name bar span)
  refine alone_iff.2 ⟨filtered, tokens, ?_⟩
  rw [ExprForm.draft, spanOf, tokens, start, stopOf_append, List.map_append]
  rfl

end Grammar

open Argument Grammar

section

variable {name : String} {kind : FilterKind}

theorem FilterCall.check_plain (plain : FilterKind.plain? name = some kind) (span : Span) :
    FilterCall.check ⟨name, none, span⟩ = .ok ⟨kind, span⟩ := by
  unfold FilterKind.plain? at plain
  split at plain <;> cases plain <;> rfl

/-- The name of a filter without argument is a token. -/
theorem step_plain (plain : FilterKind.plain? name = some kind) (afterDot : Bool) :
    ∃ c cs, name.toList = c :: cs ∧
      step afterDot c cs = .tokens [(.ident name, name.toList)] [] := by
  unfold FilterKind.plain? at plain
  split at plain <;> cases plain <;> exact ⟨_, _, rfl, rfl⟩

/-- The contents of a variable with a filter behind them. -/
theorem Expr.ofVariable_filter {contents suffix : String} {offset line : Nat} {e : Expr}
    (h : Expr.ofVariable contents offset line = .ok e)
    (plain : FilterKind.plain? name = some kind) (written : suffix.toList = '|' :: name.toList) :
    let stop := offset + Text.byteSize contents.toList
    let wordStop := stop + 1 + Text.byteSize name.toList
    Expr.ofVariable (contents ++ suffix) offset line =
      .ok ⟨e.primary, e.filters ++ [⟨kind, ⟨stop, wordStop⟩⟩], ⟨e.span.start, wordStop⟩⟩ := by
  intro stop wordStop
  obtain ⟨d, hd, he⟩ := bind_eq_ok_iff.1 h
  obtain ⟨ts, lexed, read⟩ := readAll_eq_ok_iff.1 hd
  obtain ⟨checked, primary, span⟩ := Draft.check_eq_ok_iff.1 he
  have tokens : lex (contents ++ suffix) offset =
      .ok (ts ++ filterTokens name ⟨stop, stop + 1⟩ ⟨stop + 1, wordStop⟩) := by
    have before : lexFrom offset false contents.toList = .ok ts := lexed
    have bar : step false '|' name.toList = .tokens [(.pipe, ['|'])] name.toList := rfl
    obtain ⟨c, cs, letters, word⟩ := step_plain plain (endsWithDot [(.pipe, ['|'])])
    rw [lex, String.toList_append, written, lexFrom_bar before, lexFrom_tokens bar, letters,
      lexFrom_tokens word, lexFrom]
    rfl
  refine bind_eq_ok_iff.2 ⟨_, readAll_eq_ok_iff.2 ⟨_, tokens, alone_filter read⟩, ?_⟩
  refine Draft.check_eq_ok_iff.2 ⟨?_, primary, by rw [← span]; rfl⟩
  rw [Draft.filter, List.map_append, List.map_append, checked, List.map_singleton,
    FilterCall.check_plain plain]
  rfl

end

end SlotTemplate
