import SlotTemplate.Proofs.Argument.Checks
import SlotTemplate.Proofs.Argument.Forms

/-!
# Readers recognise the grammar

* `keys_sound`, `primary_sound`, `filters_sound`, `expression_sound`: what is read is a form that
  the tokens begin with;
* `keys_complete`, `primary_complete`, `filters_complete`, `expression_complete`: a form is read
  from its tokens, whatever follows that does not go on with it;
* `arguments_iff`, `loopHeader_iff`, `condition_iff`, `alone_iff`: the readers of whole fragments.
-/

namespace SlotTemplate.Grammar

open Argument

/-! ## What forms stand for -/

def CallForm.call (c : CallForm) : FilterCall :=
  ⟨c.name, c.argument?.map fun a => a.2.tree, spanOf c.tokens⟩

def ExprForm.draft (e : ExprForm) : Draft :=
  ⟨e.primary.tree, e.calls.map CallForm.call, spanOf e.tokens⟩

def ArgumentForm.draft (a : ArgumentForm) : (String × Span) × Draft :=
  ((a.name, a.span), a.value.draft)

def LoopForm.draft (f : LoopForm) : (String × Span) × Draft := ((f.name, f.span), f.iterable.draft)

def ConditionForm.draft (f : ConditionForm) : Bool × Draft := (f.negation?.isSome, f.expr.draft)

theorem named_keys (name : String) (span : Span) (ks : List KeyForm) :
    named name (ks.map (·.key.text)) = (PrimaryForm.path name span ks).tree := by
  cases ks with
  | cons k ks => simp [named, PrimaryForm.tree]
  | nil =>
    unfold PrimaryForm.tree named
    rw [List.map_nil, List.isEmpty_nil, if_pos rfl]
    split
    · rfl
    · rfl
    · rfl
    · simp_all

/-! ## Keys -/

variable {stop : Nat} {next : List Expectation} {ts rest : List Placed}

theorem keys_sound {r : Reading (List String)} (h : keys stop ts = .ok r) :
    ∃ ks : List KeyForm, ts = ks.flatMap KeyForm.tokens ++ r.rest ∧
      r.value = ks.map (·.key.text) ∧ r.stop = stopOf stop (ks.flatMap KeyForm.tokens) := by
  fun_induction keys stop ts generalizing r with
  | case1 _ dot name span rest ih =>
    obtain ⟨r, hr, rfl⟩ := map_eq_ok_iff.1 h
    obtain ⟨ks, rfl, value, stops⟩ := ih hr
    exact ⟨⟨dot, .name name, span⟩ :: ks, rfl, congrArg (name :: ·) value, stops⟩
  | case2 _ dot n span rest ih =>
    obtain ⟨r, hr, rfl⟩ := map_eq_ok_iff.1 h
    obtain ⟨ks, rfl, value, stops⟩ := ih hr
    exact ⟨⟨dot, .index n, span⟩ :: ks, rfl, congrArg (toString n.toInt :: ·) value, stops⟩
  | case3 => cases h
  | case4 =>
    cases h
    exact ⟨[], rfl, rfl, rfl⟩

theorem keys_complete (ks : List KeyForm) (stop : Nat) (behind : Avoids .dot rest) :
    keys stop (ks.flatMap KeyForm.tokens ++ rest) =
      .ok ⟨ks.map (·.key.text), stopOf stop (ks.flatMap KeyForm.tokens), rest, [.token .dot]⟩ := by
  induction ks generalizing stop with
  | nil =>
    rw [List.flatMap_nil, List.nil_append, keys.eq_def]
    split
    · exact absurd rfl (behind _ _)
    · exact absurd rfl (behind _ _)
    · exact absurd rfl (behind _ _)
    · rfl
  | cons k ks ih =>
    obtain ⟨dot, key, span⟩ := k
    cases key with
    | name word =>
      rw [List.flatMap_cons, List.append_assoc]
      exact map_eq_ok_iff.2 ⟨_, ih span.stop, rfl⟩
    | index n =>
      rw [List.flatMap_cons, List.append_assoc]
      exact map_eq_ok_iff.2 ⟨_, ih span.stop, rfl⟩

/-! ## Primaries -/

theorem primary_sound {r : Reading Primary} (h : primary ts = .ok r) :
    ∃ p : PrimaryForm, ts = p.tokens ++ r.rest ∧ r.value = p.tree ∧
      r.stop = (spanOf p.tokens).stop := by
  unfold primary at h
  split at h
  · cases h
    exact ⟨.string _ _, rfl, rfl, rfl⟩
  · cases h
    exact ⟨.int _ _, rfl, rfl, rfl⟩
  · cases h
    exact ⟨.float _ _, rfl, rfl, rfl⟩
  · rename_i name span rest
    obtain ⟨r, hr, rfl⟩ := map_eq_ok_iff.1 h
    obtain ⟨ks, rfl, value, stops⟩ := keys_sound hr
    refine ⟨.path name span ks, rfl, ?_, stops⟩
    rw [value, named_keys name span ks]
  · cases h

theorem primary_complete (p : PrimaryForm) (behind : Avoids .dot rest) :
    ∃ next, primary (p.tokens ++ rest) = .ok ⟨p.tree, (spanOf p.tokens).stop, rest, next⟩ := by
  cases p with
  | string | int | float => exact ⟨[], rfl⟩
  | path name span ks =>
    refine ⟨[.token .dot], map_eq_ok_iff.2 ⟨_, keys_complete ks span.stop behind, ?_⟩⟩
    rw [named_keys name span ks]
    rfl

/-! ## Filters -/

theorem CallForm.tokens_argument (bar : Span) (name : String) (span colon : Span)
    (p : PrimaryForm) (us : List Placed) :
    CallForm.tokens ⟨bar, name, span, some (colon, p)⟩ ++ us =
      (.pipe, bar) :: (.ident name, span) :: (.colon, colon) :: (p.tokens ++ us) :=
  rfl

theorem CallForm.call_argument (bar : Span) (name : String) (span colon : Span) (p : PrimaryForm) :
    CallForm.call ⟨bar, name, span, some (colon, p)⟩ =
      ⟨name, some p.tree, ⟨bar.start, (spanOf p.tokens).stop⟩⟩ := by
  have stops : stopOf colon.stop p.tokens = (spanOf p.tokens).stop :=
    stopOf_eq p.tokens_ne _ _
  rw [← stops]
  rfl

theorem filters_sound {r : Reading (List FilterCall)} (h : filters stop next ts = .ok r) :
    ∃ cs : List CallForm, ts = cs.flatMap CallForm.tokens ++ r.rest ∧
      r.value = cs.map CallForm.call ∧ r.stop = stopOf stop (cs.flatMap CallForm.tokens) := by
  fun_induction filters stop next ts generalizing r with
  | case1 => cases h
  | case2 stop next bar name span colon rest p hp ih =>
    obtain ⟨more, hm, rfl⟩ := map_eq_ok_iff.1 h
    obtain ⟨p', rfl, value, stops⟩ := primary_sound hp
    obtain ⟨cs, behind, calls, last⟩ := ih hm
    refine ⟨⟨bar, name, span, some (colon, p')⟩ :: cs, ?_, ?_, ?_⟩
    · rw [List.flatMap_cons, List.append_assoc, CallForm.tokens_argument, ← behind]
    · rw [List.map_cons, CallForm.call_argument, ← calls, ← value, ← stops]
    · have size : stopOf stop (CallForm.tokens ⟨bar, name, span, some (colon, p')⟩) = p.stop :=
        (stopOf_eq p'.tokens_ne _ _).trans stops.symm
      rw [List.flatMap_cons, stopOf_append, size, ← last]
  | case3 stop next bar name span rest other ih =>
    obtain ⟨more, hm, rfl⟩ := map_eq_ok_iff.1 h
    obtain ⟨cs, rfl, calls, last⟩ := ih hm
    refine ⟨⟨bar, name, span, none⟩ :: cs, rfl, ?_, last⟩
    rw [List.map_cons, ← calls]
    rfl
  | case4 => cases h
  | case5 =>
    cases h
    exact ⟨[], rfl, rfl, rfl⟩

theorem filters_complete (cs : List CallForm) (stop : Nat) (next : List Expectation)
    (behind : Closed rest) :
    ∃ next', filters stop next (cs.flatMap CallForm.tokens ++ rest) =
      .ok ⟨cs.map CallForm.call, stopOf stop (cs.flatMap CallForm.tokens), rest, next'⟩ := by
  induction cs generalizing stop next with
  | nil => exact ⟨_, filters_end behind.pipe⟩
  | cons c cs ih =>
    obtain ⟨bar, name, span, argument⟩ := c
    rw [List.flatMap_cons, List.append_assoc]
    cases argument with
    | none =>
      obtain ⟨next', read⟩ := ih span.stop [.token .colon]
      have other := avoids_calls (by rintro ⟨⟩) cs behind.colon
      exact ⟨next', (filters_named other).trans (map_eq_ok_iff.2 ⟨_, read, rfl⟩)⟩
    | some a =>
      obtain ⟨colon, p⟩ := a
      obtain ⟨next'', argument⟩ :=
        primary_complete p (avoids_calls (by rintro ⟨⟩) cs behind.dot)
      obtain ⟨next', read⟩ := ih (spanOf p.tokens).stop next''
      have size : stopOf stop (CallForm.tokens ⟨bar, name, span, some (colon, p)⟩) =
        (spanOf p.tokens).stop := stopOf_eq p.tokens_ne _ _
      refine ⟨next', ?_⟩
      rw [List.map_cons, CallForm.call_argument, stopOf_append, size, CallForm.tokens_argument,
        filters_argument argument, read]
      rfl

/-! ## Expressions -/

theorem expression_sound {r : Reading Draft} (h : expression ts = .ok r) :
    ∃ e : ExprForm, ts = e.tokens ++ r.rest ∧ r.value = e.draft := by
  unfold expression at h
  split at h
  · cases h
  · rename_i p hp
    obtain ⟨more, hm, rfl⟩ := map_eq_ok_iff.1 h
    obtain ⟨primary, rfl, value, stops⟩ := primary_sound hp
    obtain ⟨cs, behind, calls, last⟩ := filters_sound hm
    refine ⟨⟨primary, cs⟩, ?_, ?_⟩
    · rw [ExprForm.tokens, List.append_assoc, ← behind]
    · have starts := startOf_append primary.tokens_ne
      simp only [ExprForm.draft, ExprForm.tokens, spanOf, starts, stopOf_append, value, calls, last,
        stops]

theorem expression_complete (e : ExprForm) (behind : Closed rest) :
    ∃ next stop, expression (e.tokens ++ rest) = .ok ⟨e.draft, stop, rest, next⟩ := by
  obtain ⟨primary, cs⟩ := e
  rw [ExprForm.tokens, List.append_assoc]
  obtain ⟨next, first⟩ := primary_complete primary
    (avoids_calls (by rintro ⟨⟩) cs behind.dot)
  obtain ⟨next', read⟩ := filters_complete cs (spanOf primary.tokens).stop next behind
  have starts := startOf_append primary.tokens_ne
  refine ⟨next', stopOf (spanOf primary.tokens).stop (cs.flatMap CallForm.tokens), ?_⟩
  rw [expression, first]
  refine map_eq_ok_iff.2 ⟨_, read, ?_⟩
  simp only [ExprForm.draft, ExprForm.tokens, spanOf, starts, stopOf_append]

theorem expression_finish_iff {d : Draft} :
    (∃ r, expression ts = .ok r ∧ finish r = .ok d) ↔
      ∃ e : ExprForm, e.tokens = ts ∧ e.draft = d := by
  constructor
  · rintro ⟨r, read, whole⟩
    obtain ⟨last, rfl⟩ := finish_eq_ok_iff.1 whole
    obtain ⟨e, rfl, draft⟩ := expression_sound read
    exact ⟨e, by rw [last, List.append_nil], draft.symm⟩
  · rintro ⟨e, rfl, rfl⟩
    obtain ⟨next, stop, read⟩ := expression_complete e closed_nil
    rw [List.append_nil] at read
    exact ⟨_, read, finish_eq_ok_iff.2 ⟨rfl, rfl⟩⟩

/-! ## Fragments -/

theorem alone_iff {d : Draft} : alone ts = .ok d ↔ ∃ e : ExprForm, e.tokens = ts ∧ e.draft = d := by
  rw [← expression_finish_iff, alone]
  cases expression ts <;> simp

theorem loopHeader_iff {a : (String × Span) × Draft} :
    loopHeader ts = .ok a ↔ ∃ f : LoopForm, f.tokens = ts ∧ f.draft = a := by
  constructor
  · intro h
    unfold loopHeader at h
    split at h
    · rename_i name span _
      split at h
      · rename_i word rest
        split at h
        · cases h
        · rename_i r read
          obtain ⟨d, whole, rfl⟩ := map_eq_ok_iff.1 h
          obtain ⟨e, rfl, rfl⟩ := expression_finish_iff.1 ⟨r, read, whole⟩
          exact ⟨⟨name, span, word, e⟩, rfl, rfl⟩
      · cases h
    · cases h
  · rintro ⟨⟨name, span, word, e⟩, rfl, rfl⟩
    obtain ⟨r, read, whole⟩ := expression_finish_iff.2 ⟨e, rfl, rfl⟩
    simp only [LoopForm.tokens, loopHeader, read, whole]
    rfl

theorem condition_iff {c : Bool × Draft} :
    condition ts = .ok c ↔ ∃ f : ConditionForm, f.tokens = ts ∧ f.draft = c := by
  constructor
  · intro h
    unfold condition at h
    split at h
    · rename_i span rest
      split at h
      · cases h
      · rename_i r read
        obtain ⟨d, whole, rfl⟩ := map_eq_ok_iff.1 h
        obtain ⟨e, rfl, rfl⟩ := expression_finish_iff.1 ⟨r, read, whole⟩
        have named : some span = none → Avoids (.ident "not") e.tokens := by rintro ⟨⟩
        exact ⟨⟨some span, e, named⟩, rfl, rfl⟩
    · rename_i plain
      split at h
      · cases h
      · rename_i r read
        obtain ⟨d, whole, rfl⟩ := map_eq_ok_iff.1 h
        obtain ⟨e, rfl, rfl⟩ := expression_finish_iff.1 ⟨r, read, whole⟩
        exact ⟨⟨none, e, fun _ => plain⟩, rfl, rfl⟩
  · rintro ⟨⟨negation, e, plain⟩, rfl, rfl⟩
    obtain ⟨r, read, whole⟩ := expression_finish_iff.2 ⟨e, rfl, rfl⟩
    cases negation with
    | some span =>
      simp only [ConditionForm.tokens, Option.elim_some, List.cons_append, List.nil_append,
        condition, read, whole]
      rfl
    | none =>
      simp only [ConditionForm.tokens, Option.elim_none, List.nil_append]
      rw [condition.eq_def]
      split
      · rename_i first
        exact absurd first (plain rfl _ _)
      · simp only [read, whole]
        rfl

theorem arguments_sound {as : List ((String × Span) × Draft)} (h : arguments next ts = .ok as) :
    ∃ fs : List ArgumentForm, fs.flatMap ArgumentForm.tokens = ts ∧
      fs.map ArgumentForm.draft = as := by
  fun_induction arguments next ts generalizing as with
  | case1 =>
    cases h
    exact ⟨[], rfl, rfl⟩
  | case2 => cases h
  | case3 next name span equals rest r hr ih =>
    obtain ⟨more, hm, rfl⟩ := map_eq_ok_iff.1 h
    obtain ⟨e, rfl, draft⟩ := expression_sound hr
    obtain ⟨fs, behind, rfl⟩ := ih hm
    refine ⟨⟨name, span, equals, e⟩ :: fs, ?_, ?_⟩
    · rw [List.flatMap_cons, behind]
      rfl
    · rw [draft]
      rfl
  | case4 => cases h
  | case5 => cases h

theorem arguments_complete (fs : List ArgumentForm) (next : List Expectation) :
    arguments next (fs.flatMap ArgumentForm.tokens) = .ok (fs.map ArgumentForm.draft) := by
  induction fs generalizing next with
  | nil => rw [List.flatMap_nil, arguments, List.map_nil]
  | cons f fs ih =>
    obtain ⟨name, span, equals, e⟩ := f
    obtain ⟨next', stop, read⟩ := expression_complete e (closed_arguments fs)
    have tokens : (ArgumentForm.mk name span equals e :: fs).flatMap ArgumentForm.tokens =
        (.ident name, span) :: (.equals, equals) ::
          (e.tokens ++ fs.flatMap ArgumentForm.tokens) := rfl
    rw [tokens, arguments]
    split
    · rename_i failed
      cases read.symm.trans failed
    · rename_i read'
      cases read.symm.trans read'
      exact map_eq_ok_iff.2 ⟨_, ih next', rfl⟩

theorem arguments_iff {as : List ((String × Span) × Draft)} :
    arguments next ts = .ok as ↔
      ∃ fs : List ArgumentForm, fs.flatMap ArgumentForm.tokens = ts ∧
        fs.map ArgumentForm.draft = as := by
  constructor
  · exact arguments_sound
  · rintro ⟨fs, rfl, rfl⟩
    exact arguments_complete fs next

end SlotTemplate.Grammar
