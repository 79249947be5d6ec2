import SlotTemplate.Json
import SlotTemplate.Proofs.Dict
import SlotTemplate.Proofs.FreeNames
import SlotTemplate.Proofs.Numeral

/-!
# Navigation in JSON

A path leads from member to member and from element to element. Through the values that JSON is
converted to it leads to the same places, and where it leads nowhere, it ends with null.

* `Json.Converts`, `Json.converts_toValue`: what JSON is converted to, all the way down;
* `Json.LeadsTo`: where a path leads in JSON;
* `Json.leadsTo_iff`: lookups lead there in the values that the JSON is converted to;
* `Json.lookup_ofData_iff`: so do lookups in the scope of an object, which never find safe text or
  slots.
-/

namespace SlotTemplate

theorem Value.foldl_get_null (keys : List String) : keys.foldl Value.get .null = .null := by
  induction keys with
  | nil => rfl
  | cons key keys ih => exact ih

/-- A text is written for an index: digits, with a plus sign in front or not, for a number of 64
bits. -/
structure WritesIndex (cs : List Char) (i : Nat) : Prop where
  written : ∃ ds, (cs = ds ∨ cs = '+' :: ds) ∧ ds ≠ [] ∧ (∀ c ∈ ds, c.isDigit = true) ∧
    Digits.value ds = i
  fits : i < UInt64.size

theorem indexOfText?_eq_some_iff {cs : List Char} {i : Nat} :
    indexOfText? cs = some i ↔ WritesIndex cs i := by
  have read_iff (ds : List Char) :
      ((Digits.value? ds).bind fun n => if n < UInt64.size then some n else none) = some i ↔
        (ds ≠ [] ∧ (∀ c ∈ ds, c.isDigit = true) ∧ Digits.value ds = i) ∧ i < UInt64.size := by
    rw [← Digits.value?_eq_some_iff, Option.bind_eq_some_iff]
    constructor
    · rintro ⟨n, value, h⟩
      obtain ⟨fits, same⟩ := Option.ite_none_right_eq_some.1 h
      obtain rfl := Option.some.inj same
      exact ⟨value, fits⟩
    · rintro ⟨value, fits⟩
      exact ⟨i, value, if_pos fits⟩
  rw [indexOfText?.eq_def]
  split
  · rename_i ds
    refine (read_iff ds).trans ⟨?_, ?_⟩
    · rintro ⟨written, fits⟩
      exact ⟨⟨ds, .inr rfl, written⟩, fits⟩
    · rintro ⟨⟨ds', rfl | e, written⟩, fits⟩
      · cases written.2.1 '+' List.mem_cons_self
      · exact (List.cons.inj e).2 ▸ ⟨written, fits⟩
  · rename_i unsigned
    refine (read_iff cs).trans ⟨?_, ?_⟩
    · rintro ⟨written, fits⟩
      exact ⟨⟨cs, .inl rfl, written⟩, fits⟩
    · rintro ⟨⟨ds, rfl | e, written⟩, fits⟩
      · exact ⟨written, fits⟩
      · exact absurd e (unsigned ds)

namespace Json

/-! ## Conversion -/

/-- The parts right below. -/
def children : Json → List Json
  | .array items => items
  | .object members => members.values
  | _ => []

/-- What follows for JSON from the parts right below it holds of all JSON. -/
theorem induction {P : Json → Prop} (step : ∀ j, (∀ i ∈ j.children, P i) → P j) (j : Json) :
    P j := by
  have leaf (j : Json) (childless : j.children = []) : P j := step j (by simp [childless])
  exact @Json.rec P (fun items => ∀ i ∈ items, P i) (fun members => ∀ i ∈ members.values, P i)
    (fun entries => ∀ i ∈ entries.map Prod.snd, P i) (fun e => P e.2)
    (leaf _ rfl) (fun _ => leaf _ rfl) (fun _ => leaf _ rfl) (fun _ => leaf _ rfl)
    (fun _ inside => step _ inside) (fun _ inside => step _ inside)
    (List.forall_mem_nil _) (fun _ _ h hs => List.forall_mem_cons.2 ⟨h, hs⟩)
    (fun _ inside => inside)
    (List.forall_mem_nil _) (fun _ _ h hs => List.forall_mem_cons.2 ⟨h, hs⟩) (fun _ _ h => h) j

/-- What JSON is converted to. Strings, truth values and null stay what they are. A number is an
integer if it is one that fits 64 bits with sign. Elements keep their order and members their
keys. -/
inductive Converts : Json → Value → Prop where
  | null : Converts .null .null
  | bool (b : Bool) : Converts (.bool b) (.bool b)
  | string (text : String) : Converts (.string text) (.string text)
  | integer {n : Int} {i : Int64} (fits : i.toInt = n) : Converts (.number (.integer n)) (.int i)
  | large {n : Int} (outside : n < Int64.minValue.toInt ∨ Int64.maxValue.toInt < n) :
      Converts (.number (.integer n)) (.float (Binary64.ofInt n))
  | real (x : Binary64) : Converts (.number (.real x)) (.float x)
  | array {items : List Json} {values : List Value} (length : values.length = items.length)
      (each : ∀ (i : Nat) (j : Json) (v : Value), items[i]? = some j → values[i]? = some v →
        Converts j v) : Converts (.array items) (.list values)
  | object {members : Dict Json} {fields : Dict Value} (keys : fields.keys = members.keys)
      (each : ∀ (key : String) (j : Json) (v : Value), members.get? key = some j →
        fields.get? key = some v → Converts j v) : Converts (.object members) (.map fields)

theorem toValues_eq (items : List Json) : toValues items = items.map toValue := by
  induction items with
  | nil => rfl
  | cons j js ih => rw [toValues, ih, List.map_cons]

theorem toFields_eq (members : Dict Json) : toFields members = members.map toValue := by
  obtain ⟨entries⟩ := members
  rw [toFields, Dict.map]
  congr 1
  induction entries with
  | nil => rfl
  | cons e es ih =>
    obtain ⟨key, j⟩ := e
    rw [toEntries, toEntry, ih, List.map_cons]

theorem converts_number (n : Number) : (Json.number n).Converts n.toValue := by
  cases n with
  | real x => exact .real x
  | integer n =>
    rw [Number.toValue]
    cases fits : Int64.ofInt? n with
    | some i => exact .integer (Int64.ofInt?_eq_some_iff.1 fits)
    | none => exact .large (Int64.ofInt?_eq_none_iff.1 fits)

/-- By induction on JSON. -/
theorem converts_toValue (j : Json) : j.Converts j.toValue := by
  induction j using Json.induction with
  | step j ih =>
    cases j with
    | null => exact .null
    | bool b => exact .bool b
    | number n => exact converts_number n
    | string text => exact .string text
    | array items =>
      rw [toValue, toValues_eq]
      refine .array (List.length_map _) fun i j v here there => ?_
      rw [List.getElem?_map, here] at there
      cases there
      exact ih j (List.mem_of_getElem? here)
    | object members =>
      rw [toValue, toFields_eq]
      refine .object (Dict.keys_map _ _) fun key j v here there => ?_
      rw [Dict.get?_map, here] at there
      cases there
      exact ih j (Dict.mem_values_of_find? here)

/-! ## Paths -/

/-- What a segment of a path leads to: the member that it names, or the element whose index it is
written for. -/
inductive Step (segment : String) : Json → Json → Prop where
  | member {members : Dict Json} {j : Json} (found : members.get? segment = some j) :
      Step segment (.object members) j
  | element {items : List Json} {i : Nat} {j : Json} (index : WritesIndex segment.toList i)
      (here : items[i]? = some j) : Step segment (.array items) j

/-- Where a path leads: to what the JSON at its end is converted to, and to null from the first
segment on that leads nowhere. -/
inductive LeadsTo : Json → List String → Value → Prop where
  | here (j : Json) : LeadsTo j [] j.toValue
  | onward {j j' : Json} {segment : String} {path : List String} {v : Value}
      (step : Step segment j j') (behind : LeadsTo j' path v) : LeadsTo j (segment :: path) v
  | nowhere {j : Json} {segment : String} (path : List String)
      (stuck : ∀ j', ¬ Step segment j j') : LeadsTo j (segment :: path) .null

variable {j : Json} {segment : String} {path : List String}

theorem Step.unique {i i' : Json} (h : Step segment j i) (h' : Step segment j i') : i = i' := by
  cases h with
  | member found =>
    cases h' with
    | member found' => exact Option.some.inj (found.symm.trans found')
  | element index here =>
    cases h' with
    | element index' here' =>
      have same := (indexOfText?_eq_some_iff.2 index).symm.trans (indexOfText?_eq_some_iff.2 index')
      obtain rfl := Option.some.inj same
      exact Option.some.inj (here.symm.trans here')

/-- What a number is converted to has nothing below it. -/
theorem Number.get_toValue (n : Number) (segment : String) : n.toValue.get segment = .null := by
  cases n with
  | real x => rfl
  | integer n =>
    rw [Number.toValue]
    split <;> rfl

/-- A segment leads to the value of the part that it leads to in JSON, and to null if there is
none. -/
theorem get_toValue (j : Json) (segment : String) :
    (∃ j', Step segment j j' ∧ j.toValue.get segment = j'.toValue) ∨
      (∀ j', ¬ Step segment j j') ∧ j.toValue.get segment = .null := by
  cases j with
  | null | bool | string =>
    refine .inr ⟨?_, rfl⟩
    rintro _ ⟨⟩
  | number n =>
    refine .inr ⟨?_, n.get_toValue segment⟩
    rintro _ ⟨⟩
  | array items =>
    rw [toValue, toValues_eq, Value.get]
    cases index : indexOfText? segment.toList with
    | none =>
      refine .inr ⟨?_, rfl⟩
      rintro _ (_ | ⟨index', _⟩)
      cases index.symm.trans (indexOfText?_eq_some_iff.2 index')
    | some i =>
      rw [Option.bind_some, List.getElem?_map]
      cases here : items[i]? with
      | some j' => exact .inl ⟨j', .element (indexOfText?_eq_some_iff.1 index) here, rfl⟩
      | none =>
        refine .inr ⟨?_, rfl⟩
        rintro j' (_ | ⟨index', here'⟩)
        have same := index.symm.trans (indexOfText?_eq_some_iff.2 index')
        obtain rfl := Option.some.inj same
        cases here.symm.trans here'
  | object members =>
    rw [toValue, toFields_eq, Value.get, Dict.get?_map]
    cases found : members.get? segment with
    | some j' => exact .inl ⟨j', .member found, rfl⟩
    | none =>
      refine .inr ⟨?_, rfl⟩
      rintro j' ⟨found'⟩
      cases found.symm.trans found'

/-- By induction on the path. -/
theorem leadsTo_iff {v : Value} : j.LeadsTo path v ↔ path.foldl Value.get j.toValue = v := by
  induction path generalizing j with
  | nil =>
    constructor
    · rintro ⟨⟩
      rfl
    · rintro rfl
      exact .here j
  | cons segment path ih =>
    rw [List.foldl_cons]
    rcases get_toValue j segment with ⟨j', step, value⟩ | ⟨stuck, value⟩
    · rw [value, ← ih]
      constructor
      · rintro (_ | ⟨step', behind⟩ | ⟨_, stuck⟩)
        · rw [step.unique step']
          exact behind
        · exact absurd step (stuck j')
      · exact .onward step
    · rw [value, Value.foldl_get_null]
      constructor
      · rintro (_ | ⟨step', behind⟩ | ⟨_, stuck⟩)
        · exact absurd step' (stuck _)
        · rfl
      · rintro rfl
        exact .nowhere path stuck

/-! ## Scopes -/

/-- What JSON is converted to is no safe text. -/
theorem Converts.not_safe {v : Value} (h : j.Converts v) : v.isSafe = false := by
  cases h <;> rfl

theorem LeadsTo.not_safe {v : Value} (h : j.LeadsTo path v) : v.isSafe = false := by
  induction h with
  | here j => exact (converts_toValue j).not_safe
  | onward _ _ ih => exact ih
  | nowhere => rfl

/-- An object gives variables. A path is looked up in their scope as it leads through the object:
from member to member and from element to element, up to what the JSON at its end is converted to,
or to null from the first segment on that leads nowhere. What is found is neither safe text nor
slots. -/
theorem lookup_ofData_iff (members : Dict Json) (name : String) (path : List String) :
    ∃ data, (Json.object members).toData? = some data ∧
      (∀ v, (Scope.ofData data).lookup (name :: path) = v ↔
        (Json.object members).LeadsTo (name :: path) v) ∧
      (∀ text, (Scope.ofData data).lookup (name :: path) ≠ .safe text) ∧
      (∀ slots, (Scope.ofData data).lookup (name :: path) ≠ .slots slots) ∧
      ∀ j : Json, j.Converts j.toValue := by
  have start : (Scope.ofData (toFields members)).lookup (name :: path) =
      (name :: path).foldl Value.get (Json.object members).toValue := by
    rw [Scope.lookup, Scope.get?_ofData]
    rfl
  have safe := (leadsTo_iff.2 start.symm).not_safe
  refine ⟨toFields members, rfl, fun v => ?_, ?_, ?_, converts_toValue⟩
  · rw [start]
    exact leadsTo_iff.symm
  · intro text found
    rw [found] at safe
    cases safe
  · intro slots found
    rw [found] at safe
    cases safe

end Json

end SlotTemplate
