import SlotTemplate.Parser
import SlotTemplate.Proofs.Argument.Order
import SlotTemplate.Proofs.Result
import SlotTemplate.Proofs.Tree.Partition

/-!
# Arguments that pass their checks

A fragment is cut into tokens, which are read to their end. What is read passes if each filter of its
expressions does, and arguments pass if no name comes twice.

* `readAll_eq_ok_iff`, `finish_eq_ok_iff`: when a fragment is read, and when all of it is;
* `Draft.check_eq_ok_iff`: an expression that passes is what was read, with its filters;
* `Parser.checkDistinct_eq_ok_iff`: arguments that pass are those that were read;
* `Tag.invocationArguments_distinct`: their names are distinct, and they stand in their order.
-/

namespace SlotTemplate

open Argument Grammar

namespace Grammar

theorem readAll_eq_ok_iff {α : Type} {site : Site} {text : String}
    {reader : List Placed → Except Stuck α} {a : α} :
    readAll site text reader = .ok a ↔
      ∃ ts, lex text site.start = .ok ts ∧ reader ts = .ok a := by
  unfold readAll
  cases lex text site.start <;> simp

theorem finish_eq_ok_iff {α : Type} {r : Reading α} {a : α} :
    finish r = .ok a ↔ r.rest = [] ∧ r.value = a := by
  unfold finish
  split <;> simp_all

theorem plain?_eq_some {name : String} {kind : FilterKind}
    (h : FilterKind.plain? name = some kind) :
    kind.name = name ∧ kind.argument? = none := by
  unfold FilterKind.plain? at h
  split at h <;> cases h <;> exact ⟨rfl, rfl⟩

theorem FilterCall.check_eq_ok {call : FilterCall} {f : Filter} (h : call.check = .ok f) :
    (call.name, call.argument, call.span) = (f.kind.name, f.kind.argument?, f.span) := by
  unfold FilterCall.check at h
  split at h
  · rename_i alternative name argument
    cases h
    simp [name, argument, FilterKind.name, FilterKind.argument?]
  · cases h
  · split at h
    · rename_i kind plain argument
      cases h
      obtain ⟨name, none⟩ := plain?_eq_some plain
      simp [name, none, argument]
    · cases h
    · cases h

/-- A check succeeds where that of each filter does; where the filters stand does not matter. -/
theorem checkCalls_eq_ok_iff {site : Site} {calls : List FilterCall} {fs : List Filter} :
    checkCalls site calls = .ok fs ↔ calls.map FilterCall.check = fs.map .ok := by
  induction calls generalizing fs with
  | nil => simp [checkCalls, eq_comm]
  | cons call calls ih =>
    rw [checkCalls]
    cases checked : call.check with
    | error fault => cases fs <;> simp [checked]
    | ok filter =>
      cases fs with
      | nil => simp
      | cons f fs =>
        simp only [map_eq_ok_iff, ih, List.map_cons, List.cons.injEq, checked, Except.ok.injEq]
        constructor
        · rintro ⟨_, others, rfl, rfl⟩
          exact ⟨rfl, others⟩
        · rintro ⟨rfl, others⟩
          exact ⟨fs, others, rfl, rfl⟩

theorem Draft.check_eq_ok_iff {site : Site} {d : Draft} {e : Expr} :
    d.check site = .ok e ↔ d.calls.map FilterCall.check = e.filters.map .ok ∧
      d.primary = e.primary ∧ d.span = e.span := by
  rw [Draft.check, map_eq_ok_iff]
  simp only [checkCalls_eq_ok_iff]
  constructor
  · rintro ⟨fs, checked, rfl⟩
    exact ⟨checked, rfl, rfl⟩
  · rintro ⟨checked, primary, span⟩
    exact ⟨_, checked, by rw [primary, span]⟩

end Grammar

theorem Parser.checkDistinct_eq_ok_iff {tag : Tag} {seen : List String}
    {as : List KeywordArgument} {args : List Argument} :
    checkDistinct tag seen as = .ok args ↔
      args = as.map (fun a => ⟨a.name, a.value, ⟨a.nameSpan.start, a.value.span.stop⟩⟩) ∧
        (as.map KeywordArgument.name).Nodup ∧ ∀ a ∈ as, a.name ∉ seen := by
  induction as generalizing seen args with
  | nil => simp [checkDistinct, eq_comm]
  | cons a as ih =>
    rw [checkDistinct, List.forall_mem_cons]
    by_cases repeated : a.name ∈ seen
    · simp [repeated]
    · simp only [List.contains_eq_mem, repeated, decide_false, Bool.false_eq_true, if_false,
        map_eq_ok_iff, ih, nodup_fresh_cons_iff, List.map_cons, not_false_eq_true, true_and]
      constructor
      · rintro ⟨_, ⟨rfl, distinct⟩, rfl⟩
        exact ⟨rfl, distinct⟩
      · rintro ⟨rfl, distinct⟩
        exact ⟨_, ⟨rfl, distinct⟩, rfl⟩

theorem Tag.checkArguments_spans {site : Site} {ds : List ((String × Span) × Draft)}
    {as : List KeywordArgument} (h : checkArguments site ds = .ok as) :
    ds.map draftSpan = as.map fun a => ⟨a.nameSpan.start, a.value.span.stop⟩ := by
  induction ds generalizing as with
  | nil =>
    cases h
    rfl
  | cons d ds ih =>
    obtain ⟨⟨name, span⟩, d⟩ := d
    obtain ⟨e, he, h⟩ := bind_eq_ok_iff.1 h
    obtain ⟨more, hm, h⟩ := bind_eq_ok_iff.1 h
    cases h
    rw [List.map_cons, List.map_cons, ih hm, draftSpan, (Draft.check_eq_ok_iff.1 he).2.2]

theorem Tag.invocationArguments_distinct {tag : Tag} {args : List Argument}
    (h : tag.invocationArguments = .ok args) :
    (args.map Argument.name).Nodup ∧ Successive Argument.span 0 args := by
  obtain ⟨as, has, h⟩ := bind_eq_ok_iff.1 h
  obtain ⟨ds, hds, has⟩ := bind_eq_ok_iff.1 has
  obtain ⟨ts, lexed, read⟩ := readAll_eq_ok_iff.1 hds
  obtain ⟨rfl, nodup, -⟩ := Parser.checkDistinct_eq_ok_iff.1 h
  have yields : Yields 0 _ _ (arguments [] ts) :=
    arguments_yields ((lexFrom_between lexed).mono (Nat.zero_le _))
  rw [read] at yields
  refine ⟨by simpa [Function.comp_def] using nodup, yields.1.of_map_eq ?_⟩
  simpa [Function.comp_def] using checkArguments_spans has

end SlotTemplate
