import SlotTemplate.Expr.Eval
import SlotTemplate.Proofs.Dict

/-!
# What a loop runs through

Maps keep their keys in order. So do the maps inside a value, and what an expression makes of them.

* `Value.Ordered`, `Scope.Ordered`: all maps in a value or a scope have their keys in order;
* `Expr.ordered_eval`: expressions evaluate to such values in such scopes;
* `Value.Yields`: the items of each kind of value, and `Value.Ordered.yields_items`: they are what a
  loop runs through.
-/

namespace SlotTemplate

/-! ## Values with ordered maps -/

/-- Each map in a value has its keys in order, each one once. -/
inductive Value.Ordered : Value → Prop where
  | null : Ordered .null
  | bool (b : Bool) : Ordered (.bool b)
  | int (n : Int64) : Ordered (.int n)
  | float (x : Binary64) : Ordered (.float x)
  | string (text : String) : Ordered (.string text)
  | safe (text : String) : Ordered (.safe text)
  | list {items : List Value} (all : ∀ v ∈ items, Ordered v) : Ordered (.list items)
  | map {fields : Data} (keys : fields.Ordered) (all : ∀ v ∈ fields.values, Ordered v) :
      Ordered (.map fields)
  | slots (s : SlotMap) : Ordered (.slots s)

namespace Value

theorem Ordered.get {v : Value} (h : v.Ordered) (key : String) : (v.get key).Ordered := by
  cases h with
  | null | bool | int | float | string | safe => exact .null
  | slots s => exact .safe _
  | @list items all =>
    rw [Value.get]
    cases found : (indexOfText? key.toList).bind (items[·]?) with
    | none => exact .null
    | some v =>
      obtain ⟨i, -, here⟩ := Option.bind_eq_some_iff.1 found
      exact all v (List.mem_of_getElem? here)
  | @map fields keys all =>
    rw [Value.get]
    cases found : fields.get? key with
    | none => exact .null
    | some v => exact all v (Dict.mem_values_of_find? found)

theorem Ordered.path {v : Value} (h : v.Ordered) (keys : List String) :
    (keys.foldl Value.get v).Ordered := by
  induction keys generalizing v with
  | nil => exact h
  | cons key keys ih => exact ih (h.get key)

theorem ordered_mapText (f : List Char → List Char) (v : Value) : (v.mapText f).Ordered := by
  cases v <;> constructor

theorem ordered_markSafe (v : Value) : v.markSafe.Ordered := by cases v <;> exact .safe _

theorem ordered_escape (v : Value) : v.escape.Ordered := by cases v <;> exact .safe _

end Value

/-- The values of a scope are ordered. -/
def Scope.Ordered (s : Scope) : Prop := ∀ frame ∈ s.frames, frame.All Value.Ordered

def Primary.Ordered (p : Primary) : Prop := ∀ v, p = .literal v → v.Ordered

/-- The literals of an expression are ordered. -/
structure Expr.Ordered (e : Expr) : Prop where
  primary : e.primary.Ordered
  alternatives : ∀ f ∈ e.filters, ∀ p, f.kind.argument? = some p → p.Ordered

section

variable {s : Scope}

theorem Scope.Ordered.push (h : s.Ordered) {frame : Data} (hf : frame.All Value.Ordered) :
    (s.push frame).Ordered :=
  List.forall_mem_cons.2 ⟨hf, h⟩

theorem Scope.Ordered.pop (h : s.Ordered) : s.pop.Ordered := by
  intro frame hf
  refine h frame ?_
  rcases List.mem_append.1 hf with inner | outermost
  · exact List.mem_append_left _ (List.mem_of_mem_tail inner)
  · exact List.mem_append_right _ outermost

theorem Scope.Ordered.get? (h : s.Ordered) {name : String} {v : Value}
    (found : s.get? name = some v) : v.Ordered := by
  obtain ⟨frame, mem, here⟩ := List.exists_of_findSome?_eq_some found
  exact (h frame mem).get? here

theorem Scope.Ordered.lookup (h : s.Ordered) (path : List String) : (s.lookup path).Ordered := by
  cases path with
  | nil => exact .null
  | cons name keys =>
    rw [Scope.lookup]
    cases found : s.get? name with
    | none => exact Value.Ordered.null.path keys
    | some v => exact (h.get? found).path keys

theorem Primary.ordered_eval {p : Primary} (hp : p.Ordered) (h : s.Ordered) :
    (p.eval s).Ordered := by
  cases p with
  | literal v => exact hp v rfl
  | lookup name keys => exact h.lookup (name :: keys)

theorem FilterKind.ordered_apply {kind : FilterKind}
    (hk : ∀ p, kind.argument? = some p → p.Ordered) (h : s.Ordered) {v : Value} (hv : v.Ordered) :
    (kind.apply s v).Ordered := by
  cases kind with
  | default alternative =>
    rw [FilterKind.apply]
    split
    · exact hv
    · exact Primary.ordered_eval (hk alternative rfl) h
  | upper | lower | title => exact v.ordered_mapText _
  | length => exact .int _
  | safe => exact v.ordered_markSafe
  | escape => exact v.ordered_escape

/-- By induction on the filters, each of which gives an ordered value for an ordered one. -/
theorem Expr.ordered_eval {e : Expr} (he : e.Ordered) (h : s.Ordered) : (e.eval s).Ordered := by
  have passes (fs : List Filter) (hf : ∀ f ∈ fs, ∀ p, f.kind.argument? = some p → p.Ordered)
      {v : Value} (hv : v.Ordered) : (fs.foldl (fun v f => f.kind.apply s v) v).Ordered := by
    induction fs generalizing v with
    | nil => exact hv
    | cons f fs ih =>
      obtain ⟨here, there⟩ := List.forall_mem_cons.1 hf
      exact ih there (FilterKind.ordered_apply here h hv)
  exact passes e.filters he.alternatives (Primary.ordered_eval he.primary h)

end

/-! ## Items -/

/-- The characters of a text, each as a text of its own. -/
def characters (text : String) : List Value :=
  text.toList.map fun c => .string (String.singleton c)

/-- What a value is run through as: a list as its items in order, a map as its keys in increasing
order, a text as its characters, and all else as nothing. -/
inductive Value.Yields : Value → List Value → Prop where
  | list (items : List Value) : Yields (.list items) items
  | map {fields : Data} {keys : List String} (increasing : keys.Pairwise (· < ·))
      (all : ∀ key, key ∈ keys ↔ ∃ v, fields.get? key = some v) :
      Yields (.map fields) (keys.map .string)
  | string (text : String) : Yields (.string text) (characters text)
  | safe (text : String) : Yields (.safe text) (characters text)
  | null : Yields .null []
  | bool (b : Bool) : Yields (.bool b) []
  | int (n : Int64) : Yields (.int n) []
  | float (x : Binary64) : Yields (.float x) []
  | slots (s : SlotMap) : Yields (.slots s) []

namespace Value

/-- A loop runs through the items of an ordered value. -/
theorem Ordered.yields_items {v : Value} (h : v.Ordered) : v.Yields v.items := by
  cases h with
  | list => exact .list _
  | map keys all => exact .map keys fun _ => Dict.mem_keys_iff
  | string => exact .string _
  | safe => exact .safe _
  | null => exact .null
  | bool b => exact .bool b
  | int n => exact .int n
  | float x => exact .float x
  | slots s => exact .slots s

/-- So are the items themselves. -/
theorem Ordered.items {v : Value} (h : v.Ordered) : ∀ item ∈ v.items, item.Ordered := by
  have texts (ts : List Value) (hs : ∀ t ∈ ts, ∃ text, t = .string text) :
      ∀ t ∈ ts, t.Ordered := by
    intro t ht
    obtain ⟨text, rfl⟩ := hs t ht
    exact .string text
  cases h with
  | list all => exact all
  | map | string | safe =>
    refine texts _ fun t ht => ?_
    obtain ⟨x, -, rfl⟩ := List.mem_map.1 ht
    exact ⟨_, rfl⟩
  | null | bool | int | float | slots => exact List.forall_mem_nil _

end Value

end SlotTemplate
