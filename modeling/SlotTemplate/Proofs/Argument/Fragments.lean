import SlotTemplate.Proofs.Argument.Blame
import SlotTemplate.Proofs.Argument.Forms
import SlotTemplate.Proofs.Argument.Steps

/-!
# Tokens of a part of a text

Some of the tokens of a text are the tokens of the part in which they stand, read on its own. What
stands in front of them matters only if it ends with a dot, and what stands behind them does not
matter unless it starts with one: digits around a dot may be a number or two keys.

* `lexFrom_drop`: tokens are read on their own from where the first one starts;
* `lexFrom_cut`: tokens are read on their own up to where the last one stops;
* `lexFrom_fragment`: so are tokens between others;
* `lexFrom_gaps`, `lexFrom_spelling`: what stands in front of the first token, and where it stands.
-/

namespace SlotTemplate.Argument

open Grammar

/-! ## Splits between tokens -/

/-- Whether a dot stands last behind some tokens; without tokens, whether one stood in front. -/
def dotBehind (afterDot : Bool) : List Placed → Bool
  | [] => afterDot
  | t :: ts => dotBehind (t.1 == .dot) ts

theorem dotBehind_append (afterDot : Bool) (ts us : List Placed) :
    dotBehind afterDot (ts ++ us) = dotBehind (dotBehind afterDot ts) us := by
  induction ts generalizing afterDot with
  | nil => rfl
  | cons t ts ih => exact ih (t.1 == .dot)

section

variable {pos : Nat} {afterDot : Bool} {c : Char} {cs rest : List Char}
  {ts : List (Token × List Char)} {us vs more : List Placed}

theorem dotBehind_placeTokens (read : step afterDot c cs = .tokens ts rest) (before : Bool) :
    dotBehind before (placeTokens pos ts) = endsWithDot ts := by
  obtain ⟨t, w, rfl, -⟩ | ⟨a, b, w, w', rfl, -⟩ := step_shape read
  · cases t <;> rfl
  · rfl

theorem startOf_placeTokens (read : step afterDot c cs = .tokens ts rest) :
    startOf (placeTokens pos ts ++ more) = pos := by
  obtain ⟨t, w, rfl, -⟩ | ⟨a, b, w, w', rfl, -⟩ := step_shape read <;> rfl

theorem stopOf_placeTokens (ts : List (Token × List Char)) (pos stop : Nat) (nonempty : ts ≠ []) :
    stopOf stop (placeTokens pos ts) = pos + Text.byteSize (spelled ts) := by
  induction ts generalizing pos stop with
  | nil => exact absurd rfl nonempty
  | cons t ts ih =>
    obtain ⟨t, w⟩ := t
    have next : stopOf stop (placeTokens pos ((t, w) :: ts)) =
        stopOf (pos + Text.byteSize w) (placeTokens (pos + Text.byteSize w) ts) := rfl
    have size : Text.byteSize (spelled ((t, w) :: ts)) =
        Text.byteSize w + Text.byteSize (spelled ts) := by simp [spelled]
    rw [next, size, ← Nat.add_assoc]
    cases ts with
    | nil => rfl
    | cons t' ts => exact ih _ _ (List.cons_ne_nil _ _)

/-- What a step reads is not split where no dot stands next to the split. -/
theorem placeTokens_split (read : step afterDot c cs = .tokens ts rest)
    (same : placeTokens pos ts ++ more = us ++ vs) (nonempty : us ≠ []) {before : Bool}
    (front : dotBehind before us = false) (behind : Avoids .dot vs) :
    ∃ left, us = placeTokens pos ts ++ left ∧ more = left ++ vs := by
  cases us with
  | nil => exact absurd rfl nonempty
  | cons u us =>
    obtain ⟨t, w, rfl, -⟩ | ⟨a, b, w, w', rfl, -⟩ := step_shape read
    · obtain ⟨rfl, others⟩ := List.cons.inj same
      exact ⟨us, rfl, others⟩
    · obtain ⟨rfl, behindKey⟩ := List.cons.inj same
      cases us with
      | nil => exact absurd behindKey.symm (behind _ _)
      | cons u us =>
        obtain ⟨rfl, behindDot⟩ := List.cons.inj behindKey
        cases us with
        | nil => cases front
        | cons u us =>
          obtain ⟨rfl, others⟩ := List.cons.inj behindDot
          exact ⟨us, rfl, others⟩

theorem tokens_ne_of_step (read : step afterDot c cs = .tokens ts rest) : ts ≠ [] := by
  obtain ⟨t, w, rfl, -⟩ | ⟨a, b, w, w', rfl, -⟩ := step_shape read <;> exact List.cons_ne_nil _ _

/-- Tokens are read on their own up to where the last one stops, unless a dot follows. -/
theorem lexFrom_cut (h : lexFrom pos afterDot cs = .ok (us ++ vs)) (nonempty : us ≠ [])
    (back : dotBehind false us = false) (behind : Avoids .dot vs) :
    ∃ a b, cs = a ++ b ∧ lexFrom pos afterDot a = .ok us ∧
      pos + Text.byteSize a = stopOf pos us := by
  fun_induction lexFrom pos afterDot cs generalizing us with
  | case1 =>
    cases us with
    | nil => exact absurd rfl nonempty
    | cons => cases h
  | case2 pos afterDot c cs _ _ read ih =>
    obtain ⟨a, b, rfl, lexed, stop⟩ := ih h nonempty back
    have gap : step afterDot c a = .gap c a := by rw [step, if_pos (isGap_of_step read)]
    refine ⟨c :: a, b, rfl, by rw [lexFrom_gap gap, lexed], ?_⟩
    rw [Text.byteSize_cons, ← Nat.add_assoc, stop]
    exact stopOf_eq nonempty _ _
  | case3 pos afterDot c cs ts rest read more lexed ih =>
    obtain ⟨left, rfl, rfl⟩ := placeTokens_split read (Except.ok.inj h) nonempty back behind
    have some := tokens_ne_of_step read
    rw [dotBehind_append, dotBehind_placeTokens read] at back
    -- what the later steps read of what this one leaves
    obtain ⟨a, b, rfl, lexed', stop⟩ : ∃ a b, rest = a ++ b ∧
        lexFrom (pos + Text.byteSize (spelled ts)) (endsWithDot ts) a = .ok left ∧
        pos + Text.byteSize (spelled ts) + Text.byteSize a =
          stopOf (pos + Text.byteSize (spelled ts)) left := by
      cases left with
      | nil => exact ⟨[], rest, rfl, by rw [lexFrom], rfl⟩
      | cons t left => exact ih lexed (List.cons_ne_nil _ _) back
    obtain ⟨w, word, rfl⟩ := step_split read
    rw [← List.append_assoc] at read
    refine ⟨c :: (w ++ a), b, by rw [List.cons_append, List.append_assoc], ?_, ?_⟩
    · rw [lexFrom_tokens (step_cut read), lexed']
      rfl
    · have size := congrArg Text.byteSize word
      rw [stopOf_append, stopOf_placeTokens ts pos pos some, ← stop, size, ← List.cons_append,
        Text.byteSize_append, Nat.add_assoc]
  | case4 => cases h
  | case5 => cases h

/-- Tokens are read on their own from where the first one starts, unless a dot stands in front of
them. -/
theorem lexFrom_drop (h : lexFrom pos afterDot cs = .ok (us ++ vs)) (nonempty : vs ≠ [])
    (front : dotBehind afterDot us = false) (starts : Avoids .dot vs) :
    ∃ a b, cs = a ++ b ∧ pos + Text.byteSize a = startOf vs ∧
      lexFrom (startOf vs) false b = .ok vs := by
  fun_induction lexFrom pos afterDot cs generalizing us with
  | case1 =>
    obtain ⟨-, none⟩ := List.append_eq_nil_iff.1 (Except.ok.inj h).symm
    exact absurd none nonempty
  | case2 pos afterDot c cs _ _ read ih =>
    obtain ⟨a, b, rfl, start, lexed⟩ := ih h front
    refine ⟨c :: a, b, rfl, ?_, lexed⟩
    rw [Text.byteSize_cons, ← Nat.add_assoc, start]
  | case3 pos afterDot c cs ts rest read more lexed ih =>
    cases us with
    | nil =>
      -- the first token is the one that is read here
      obtain rfl : afterDot = false := front
      have here : startOf vs = pos := by
        have same := Except.ok.inj h
        rw [List.nil_append] at same
        rw [← same, startOf_placeTokens read]
      refine ⟨[], c :: cs, rfl, here.symm, ?_⟩
      rw [here, lexFrom_tokens read, lexed]
      exact h
    | cons u us =>
      obtain ⟨left, same, rfl⟩ :=
        placeTokens_split read (Except.ok.inj h) (List.cons_ne_nil _ _) front starts
      rw [same, dotBehind_append, dotBehind_placeTokens read] at front
      obtain ⟨a, b, rfl, start, lexed'⟩ := ih lexed front
      refine ⟨spelled ts ++ a, b, ?_, ?_, lexed'⟩
      · rw [(step_tokens read).1, List.append_assoc]
      · rw [Text.byteSize_append, ← Nat.add_assoc, start]
  | case4 => cases h
  | case5 => cases h

/-- Tokens between others are those of the part of the text in which they stand. -/
theorem lexFrom_fragment {us mid vs : List Placed}
    (h : lexFrom pos false cs = .ok (us ++ (mid ++ vs))) (nonempty : mid ≠ [])
    (front : dotBehind false us = false) (starts : Avoids .dot (mid ++ vs))
    (back : dotBehind false mid = false) (behind : Avoids .dot vs) :
    ∃ a part b, cs = a ++ (part ++ b) ∧ pos + Text.byteSize a = startOf mid ∧
      lexFrom (startOf mid) false part = .ok mid ∧
      startOf mid + Text.byteSize part = (spanOf mid).stop := by
  have some : mid ++ vs ≠ [] := by simp [nonempty]
  obtain ⟨a, b, rfl, start, lexed⟩ := lexFrom_drop h some front starts
  rw [startOf_append nonempty] at start lexed
  obtain ⟨part, b, rfl, lexed, stop⟩ := lexFrom_cut lexed nonempty back behind
  exact ⟨a, part, b, rfl, start, lexed, stop⟩

/-- In front of the first token there are gaps. -/
theorem lexFrom_gaps (h : lexFrom pos afterDot cs = .ok us) (nonempty : us ≠ []) :
    ∃ gaps rest, cs = gaps ++ rest ∧ (∀ c ∈ gaps, isGap c = true) ∧
      pos + Text.byteSize gaps = startOf us ∧ lexFrom (startOf us) afterDot rest = .ok us := by
  fun_induction lexFrom pos afterDot cs with
  | case1 =>
    cases h
    exact absurd rfl nonempty
  | case2 pos afterDot c cs _ _ read ih =>
    obtain ⟨gaps, rest, rfl, gap, start, lexed⟩ := ih h
    refine ⟨c :: gaps, rest, rfl, List.forall_mem_cons.2 ⟨isGap_of_step read, gap⟩, ?_, lexed⟩
    rw [Text.byteSize_cons, ← Nat.add_assoc, start]
  | case3 pos afterDot c cs ts rest read more lexed =>
    have here : startOf us = pos := by rw [← Except.ok.inj h, startOf_placeTokens read]
    refine ⟨[], c :: cs, rfl, List.forall_mem_nil _, here.symm, ?_⟩
    rw [here, lexFrom_tokens read, lexed]
    exact h
  | case4 => cases h
  | case5 => cases h

/-- A token where the text starts is spelled there, and what follows it is read behind it. -/
theorem lexFrom_spelling {t : Token} {span : Span} {s : List Char}
    (h : lexFrom pos afterDot cs = .ok ((t, span) :: us)) (start : span.start = pos)
    (spelt : spelling? t = some s) :
    ∃ rest, cs = s ++ rest ∧
      lexFrom (pos + Text.byteSize s) (endsWithDot [(t, s)]) rest = .ok us := by
  cases cs with
  | nil =>
    rw [lexFrom] at h
    cases h
  | cons c cs =>
    cases read : step afterDot c cs with
    | gap c' rest =>
      rw [lexFrom_gap read] at h
      have le := (lexFrom_between h).1
      have size := c.utf8Size_pos
      simp only at le
      omega
    | tokens ts rest =>
      rw [lexFrom_tokens read] at h
      obtain ⟨more, lexed, same⟩ := map_eq_ok_iff.1 h
      obtain ⟨t', w, rfl, -, word⟩ | ⟨a, b, w, w', rfl, -⟩ := step_shape read
      · obtain ⟨first, rfl⟩ := List.cons.inj same
        obtain rfl : t' = t := congrArg Prod.fst first
        obtain rfl : w = s := word s spelt
        have whole : spelled [(t', w)] = w := List.append_nil w
        rw [whole] at lexed
        exact ⟨rest, by rw [(step_tokens read).1, whole], lexed⟩
      · obtain rfl : .int a = t := congrArg Prod.fst (List.cons.inj same).1
        cases spelt
    | fail part =>
      rw [lexFrom_fail read] at h
      cases h

end

/-! ## Forms -/

theorem dotBehind_keys (ks : List KeyForm) :
    dotBehind false (ks.flatMap KeyForm.tokens) = false := by
  induction ks with
  | nil => rfl
  | cons k ks ih =>
    obtain ⟨dot, key, span⟩ := k
    rw [List.flatMap_cons, dotBehind_append]
    cases key <;> exact ih

theorem dotBehind_primary (p : PrimaryForm) (afterDot : Bool) :
    dotBehind afterDot p.tokens = false := by
  cases p with
  | string | int | float => rfl
  | path name span ks => exact dotBehind_keys ks

theorem dotBehind_calls (cs : List CallForm) :
    dotBehind false (cs.flatMap CallForm.tokens) = false := by
  induction cs with
  | nil => rfl
  | cons c cs ih =>
    obtain ⟨bar, name, span, argument⟩ := c
    rw [List.flatMap_cons, dotBehind_append]
    cases argument with
    | none => exact ih
    | some a =>
      have last : dotBehind false (CallForm.tokens ⟨bar, name, span, some a⟩) = false :=
        dotBehind_primary a.2 _
      rwa [last]

/-- No dot ends an expression. -/
theorem dotBehind_expr (e : ExprForm) (afterDot : Bool) : dotBehind afterDot e.tokens = false := by
  rw [ExprForm.tokens, dotBehind_append, dotBehind_primary, dotBehind_calls]

theorem dotBehind_arguments (as : List ArgumentForm) :
    dotBehind false (as.flatMap ArgumentForm.tokens) = false := by
  induction as with
  | nil => rfl
  | cons a as ih =>
    have last : dotBehind false a.tokens = false := dotBehind_expr a.value _
    rwa [List.flatMap_cons, dotBehind_append, last]

/-- No dot starts an expression. -/
theorem avoids_expr (e : ExprForm) (ts : List Placed) : Avoids .dot (e.tokens ++ ts) := by
  obtain ⟨primary, calls⟩ := e
  cases primary <;> exact avoids_cons (by rintro ⟨⟩) _ _

end SlotTemplate.Argument
