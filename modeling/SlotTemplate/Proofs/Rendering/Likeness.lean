import SlotTemplate.Proofs.Components
import SlotTemplate.Proofs.FreeNames
import SlotTemplate.Proofs.Result
import SlotTemplate.Proofs.SlotMap

/-!
# Values that templates cannot tell apart

Rendered slots are read by name. Slots with the same texts differ at most in the number of their
entries, which the `length` filter shows and nothing else.

* `Value.Alike`: values that are the same, or slots with the same texts;
* `Expr.eval_alike`: in scopes with alike values, expressions have alike values;
* `Component.context_alike`: components that hand over their arguments make alike variables of them.
-/

namespace SlotTemplate

open Rendering

/-! ## Values -/

/-- Values that are the same, or slots with the same texts. -/
inductive Value.Alike : Value → Value → Prop where
  | same (v : Value) : Alike v v
  | slots {s s' : SlotMap} (texts : s.get = s'.get) : Alike (.slots s) (.slots s')

namespace Value.Alike

variable {v v' : Value}

theorem isTruthy_eq (h : v.Alike v') : v.isTruthy = v'.isTruthy := by
  cases h with
  | same => rfl
  | slots texts =>
    rw [Value.isTruthy, Value.isTruthy, Bool.eq_iff_iff, SlotMap.any_isFilled_iff,
      SlotMap.any_isFilled_iff, texts]

theorem render_eq (h : v.Alike v') (autoescape : Bool) :
    v.render autoescape = v'.render autoescape := by
  cases h with
  | same => rfl
  | slots texts =>
    simp only [Value.render, Value.isSafe, Value.text, texts]
    rfl

theorem items_eq (h : v.Alike v') : v.items = v'.items := by
  cases h <;> rfl

theorem get (h : v.Alike v') (key : String) : (v.get key).Alike (v'.get key) := by
  cases h with
  | same => exact .same _
  | slots texts =>
    rw [Value.get, Value.get, texts]
    exact .same _

theorem foldl_get (h : v.Alike v') (keys : List String) :
    (keys.foldl Value.get v).Alike (keys.foldl Value.get v') := by
  induction keys generalizing v v' with
  | nil => exact h
  | cons key keys ih => exact ih (h.get key)

end Value.Alike

/-! ## Scopes -/

/-- Scopes with alike values under each name. -/
def Scope.Alike (s s' : Scope) : Prop :=
  ∀ name, Option.Rel Value.Alike (s.get? name) (s'.get? name)

namespace Scope.Alike

variable {s s' : Scope}

theorem push (h : s.Alike s') (frame : Data) : (s.push frame).Alike (s'.push frame) := by
  intro name
  rw [Scope.get?_push, Scope.get?_push]
  cases frame.get? name with
  | none => exact h name
  | some v => exact .some (.same v)

theorem ofData {data data' : Data} (h : Dict.Beside Value.Alike data.entries data'.entries) :
    (Scope.ofData data).Alike (.ofData data') := by
  intro name
  have only (data : Data) : (Scope.ofData data).get? name = Dict.find? name data.entries := by
    change List.findSome? (·.get? name) [data] = data.get? name
    rw [List.findSome?_cons, List.findSome?_nil]
    cases data.get? name <;> rfl
  rw [only, only]
  exact h.find? name

theorem lookup (h : s.Alike s') (path : List String) : (s.lookup path).Alike (s'.lookup path) := by
  cases path with
  | nil => exact .same .null
  | cons name keys =>
    refine Value.Alike.foldl_get ?_ keys
    have found := h name
    generalize s.get? name = x, s'.get? name = y at found
    cases found with
    | none => exact .same .null
    | some alike => exact alike

/-- Slots are filled with the same texts. -/
theorem filledSlot?_eq (h : s.Alike s') (name : String) :
    filledSlot? s name = filledSlot? s' name := by
  have found := h "slots"
  unfold filledSlot?
  generalize s.get? "slots" = x, s'.get? "slots" = y at found
  cases found with
  | none => rfl
  | some alike =>
    cases alike with
    | same => rfl
    | slots texts =>
      simp only [SlotMap.isFilled, texts]
      rfl

end Scope.Alike

section

variable {s s' : Scope} (scopes : s.Alike s')

include scopes

theorem Primary.eval_alike (p : Primary) : (p.eval s).Alike (p.eval s') := by
  cases p with
  | literal v => exact .same v
  | lookup name keys => exact scopes.lookup (name :: keys)

theorem FilterKind.apply_alike {k : FilterKind} (other : k ≠ .length) {v v' : Value}
    (h : v.Alike v') : (k.apply s v).Alike (k.apply s' v') := by
  cases k with
  | default alternative =>
    rw [FilterKind.apply, FilterKind.apply, h.isTruthy_eq]
    split
    · exact h
    · exact alternative.eval_alike scopes
  | length => exact absurd rfl other
  | upper | lower | title | safe | escape =>
    cases h with
    | same => exact .same _
    | slots texts =>
      simp only [FilterKind.apply, Value.mapText, Value.markSafe, Value.escape, Value.text, texts]
      exact .same _

/-- An expression without the `length` filter has alike values in alike scopes. -/
theorem Expr.eval_alike {e : Expr} (other : ∀ f ∈ e.filters, f.kind ≠ .length) :
    (e.eval s).Alike (e.eval s') := by
  rw [Expr.eval, Expr.eval]
  have start := e.primary.eval_alike scopes
  generalize e.primary.eval s = v, e.primary.eval s' = v' at start
  generalize e.filters = fs at other
  induction fs generalizing v v' with
  | nil => exact start
  | cons f fs ih =>
    obtain ⟨here, there⟩ := List.forall_mem_cons.1 other
    exact ih _ _ (FilterKind.apply_alike scopes here start) there

end

/-! ## Components -/

theorem Signature.fill_alike (params : List Param) {args args' : Data}
    (h : Dict.Beside Value.Alike args.entries args'.entries) :
    SameOutcome (fun d d' : Data => Dict.Beside Value.Alike d.entries d'.entries)
      (fill params args) (fill params args') := by
  induction params generalizing args args' with
  | nil => exact .ok h
  | cons p params ih =>
    have same : args.contains p.name = args'.contains p.name := by
      have found := h.find? p.name
      rw [Dict.contains, Dict.contains, Dict.get?, Dict.get?]
      generalize Dict.find? p.name args.entries = x, Dict.find? p.name args'.entries = y at found
      cases found <;> rfl
    rw [fill, fill, same]
    split
    · exact ih h
    · split
      · exact ih (h.insertEntry (.same _) p.name)
      · exact .error _

/-- A component that hands over its arguments makes alike variables of alike arguments and of slots
with the same texts. -/
theorem Component.context_alike {c : Component} (handsOver : c.HandsOver) {slots slots' : SlotMap}
    {args args' : Data} (texts : slots.get = slots'.get)
    (h : Dict.Beside Value.Alike args.entries args'.entries) :
    SameOutcome (fun d d' : Data => Dict.Beside Value.Alike d.entries d'.entries)
      (c.context slots args) (c.context slots' args') := by
  have keys : args.keys = args'.keys := h.keys_eq
  rw [context, context, Signature.bind, Signature.bind, keys]
  cases args'.keys.find? (!c.signature.accepts ·) with
  | some name => exact .error _
  | none =>
    have filled := Signature.fill_alike c.signature.params h
    dsimp only
    generalize Signature.fill c.signature.params args = x,
      Signature.fill c.signature.params args' = y at filled
    cases filled with
    | error e => exact .error e
    | ok bound =>
      simp only [handsOver slots, handsOver slots', texts]
      refine .ok (.insertAll ?_ bound)
      exact Dict.Beside.insertAll .nil (.cons (.same _) (.cons (.slots texts) .nil))

end SlotTemplate
