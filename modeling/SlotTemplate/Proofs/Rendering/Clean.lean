import SlotTemplate.Expr.Eval
import SlotTemplate.Proofs.Dict
import SlotTemplate.Proofs.Text.Bare

/-!
# Clean values

A value is clean if what is printed of it without escaping has no markup. Text that is escaped when
it is printed may hold anything.

* `Value.Clean.get`, `Value.Clean.item`: what is inside of a clean value is clean;
* `Expr.eval_clean`: expressions without the filter `safe` keep a scope's values clean;
* `Value.Clean.render`: a clean value prints no markup if it is escaped.
-/

namespace SlotTemplate

open Text

/-- Every text among rendered slots has no markup. -/
def SlotMap.Bare (s : SlotMap) : Prop := ∀ name, Text.Bare (s.get name).toList

theorem SlotMap.Bare.empty : SlotMap.empty.Bare := fun _ => bare_nil

theorem SlotMap.Bare.insert {s : SlotMap} (h : s.Bare) {text : String} (ht : Text.Bare text.toList)
    (name : String) : (s.insert name text).Bare := by
  intro other
  rw [SlotMap.get_insert]
  split
  · exact ht
  · exact h other

namespace Value

/-- The values right inside a value. -/
def members : Value → List Value
  | .list items => items
  | .map fields => fields.values
  | _ => []

/-- A property of a value and of all values inside it. -/
inductive Throughout (P : Value → Prop) : Value → Prop where
  | intro {v : Value} (here : P v) (inside : ∀ w ∈ v.members, Throughout P w) : Throughout P v

/-- Nothing in a value is marked as safe. -/
abbrev Plain (v : Value) : Prop := v.Throughout fun w => w.isSafe = false

/-- What is printed of a value without escaping has no markup. -/
def PrintsBare : Value → Prop
  | .safe s => Text.Bare s.toList
  | .slots s => s.Bare
  | _ => True

abbrev Clean (v : Value) : Prop := v.Throughout PrintsBare

namespace Throughout

variable {P Q : Value → Prop} {v : Value}

theorem here (h : v.Throughout P) : P v := by
  cases h with
  | intro here _ => exact here

theorem inside (h : v.Throughout P) : ∀ w ∈ v.members, w.Throughout P := by
  cases h with
  | intro _ inside => exact inside

theorem mono (h : v.Throughout P) (imp : ∀ w, P w → Q w) : v.Throughout Q := by
  induction h with
  | intro here _ ih => exact .intro (imp _ here) ih

end Throughout

theorem Plain.clean {v : Value} (h : v.Plain) : v.Clean := by
  refine h.mono fun w hw => ?_
  cases w with
  | safe | slots => cases hw
  | null | bool | int | float | string | list | map => trivial

namespace Clean

/-- A value without others inside it. -/
theorem leaf {v : Value} (here : v.PrintsBare) (alone : v.members = []) : v.Clean :=
  .intro here (by simp [alone])

theorem null : Value.null.Clean := leaf trivial rfl

theorem string (text : String) : (Value.string text).Clean := leaf trivial rfl

theorem safe {text : String} (h : Text.Bare text.toList) : (Value.safe text).Clean := leaf h rfl

variable {v : Value}

theorem get (h : v.Clean) (key : String) : (v.get key).Clean := by
  cases v with
  | map fields =>
    cases found : fields.get? key with
    | none => simpa [Value.get, found] using null
    | some w => simpa [Value.get, found] using h.inside w (Dict.mem_values_of_find? found)
  | list items =>
    cases found : (indexOfText? key.toList).bind (items[·]?) with
    | none => simpa [Value.get, found] using null
    | some w =>
      obtain ⟨i, -, hi⟩ := Option.bind_eq_some_iff.1 found
      simpa [Value.get, found] using h.inside w (List.mem_of_getElem? hi)
  | slots s => exact safe (h.here key)
  | null | bool | int | float | string | safe => exact null

theorem items (h : v.Clean) : ∀ w ∈ v.items, w.Clean := by
  cases v with
  | list items => exact h.inside
  | map | string | safe =>
    intro w hw
    obtain ⟨_, -, rfl⟩ := List.mem_map.1 hw
    exact string _
  | null | bool | int | float | slots => exact List.forall_mem_nil _

theorem mapText (h : v.Clean) {f : List Char → List Char}
    (keeps : ∀ cs, Text.Bare cs → Text.Bare (f cs)) : (v.mapText f).Clean := by
  cases v with
  | null => exact null
  | safe s => exact safe (by simpa using keeps _ h.here)
  | slots s => exact safe (by simpa [text] using keeps _ (h.here defaultSlot))
  | bool | int | float | string | list | map => exact string _

theorem escape (h : v.Clean) : v.escape.Clean := by
  cases v with
  | safe s => exact h
  | null | bool | int | float | string | list | map | slots =>
    exact safe (by simpa [escapeHtml] using escape_bare _)

/-- A clean value prints no markup if it is escaped. -/
theorem render (h : v.Clean) : Text.Bare (v.render true).toList := by
  cases v with
  | safe s => exact h.here
  | slots s => exact h.here defaultSlot
  | null | bool | int | float | string | list | map =>
    simpa [Value.render, isSafe, escapeHtml] using escape_bare _

end Clean

end Value

/-- All values of a scope are clean. -/
def Scope.Clean (s : Scope) : Prop := ∀ frame ∈ s.frames, frame.All Value.Clean

namespace Scope.Clean

variable {s : Scope}

theorem push (h : s.Clean) {frame : Data} (hf : frame.All Value.Clean) : (s.push frame).Clean :=
  List.forall_mem_cons.2 ⟨hf, h⟩

theorem pop (h : s.Clean) : s.pop.Clean := by
  intro frame hf
  rcases List.mem_append.1 hf with hf | hf
  · exact h frame (List.mem_append_left _ (List.mem_of_mem_tail hf))
  · exact h frame (List.mem_append_right _ hf)

theorem get? (h : s.Clean) {name : String} {v : Value} (found : s.get? name = some v) : v.Clean := by
  obtain ⟨frame, hf, found⟩ := List.exists_of_findSome?_eq_some found
  exact (h frame hf).get? found

theorem lookup (h : s.Clean) (path : List String) : (s.lookup path).Clean := by
  cases path with
  | nil => exact .null
  | cons name keys =>
    have start : ((s.get? name).getD .null).Clean := by
      cases found : s.get? name with
      | none => exact .null
      | some v => exact h.get? found
    rw [Scope.lookup]
    generalize (s.get? name).getD .null = v at start
    induction keys generalizing v with
    | nil => exact start
    | cons key keys ih => exact ih (v.get key) (start.get key)

end Scope.Clean

/-- The literals of what an expression starts with are plain. -/
def Primary.Plain (p : Primary) : Prop := ∀ v, p = .literal v → v.Plain

/-- An expression has plain literals and nowhere the filter `safe`. -/
structure Expr.Guarded (e : Expr) : Prop where
  primary : e.primary.Plain
  filters : ∀ f ∈ e.filters, f.kind ≠ .safe ∧ ∀ p, f.kind.argument? = some p → p.Plain

theorem Primary.eval_clean {p : Primary} {s : Scope} (hp : p.Plain) (h : s.Clean) :
    (p.eval s).Clean := by
  cases p with
  | literal v => exact (hp v rfl).clean
  | lookup name keys => exact h.lookup (name :: keys)

theorem FilterKind.apply_clean {k : FilterKind} {s : Scope} {v : Value} (hk : k ≠ .safe)
    (argument : ∀ p, k.argument? = some p → p.Plain) (h : s.Clean) (hv : v.Clean) :
    (k.apply s v).Clean := by
  cases k with
  | default alternative =>
    rw [FilterKind.apply]
    split
    · exact hv
    · exact Primary.eval_clean (argument _ rfl) h
  | upper => exact hv.mapText fun _ => upper_bare
  | lower => exact hv.mapText fun _ => lower_bare
  | title => exact hv.mapText fun _ => title_bare
  | length => exact .leaf trivial rfl
  | safe => exact absurd rfl hk
  | escape => exact hv.escape

/-- A guarded expression has a clean value in a scope of clean values. -/
theorem Expr.eval_clean {e : Expr} {s : Scope} (he : e.Guarded) (h : s.Clean) :
    (e.eval s).Clean := by
  have filters := he.filters
  have start := Primary.eval_clean he.primary h
  rw [Expr.eval]
  generalize e.primary.eval s = v at start
  generalize e.filters = fs at filters
  induction fs generalizing v with
  | nil => exact start
  | cons f fs ih =>
    obtain ⟨⟨hk, argument⟩, there⟩ := List.forall_mem_cons.1 filters
    exact ih (f.kind.apply s v) (FilterKind.apply_clean hk argument h start) there

end SlotTemplate
