import SlotTemplate.Command.Run
import SlotTemplate.Proofs.Navigation
import SlotTemplate.Proofs.Rendering.Items

/-!
# JSON keeps its members in order

* `Json.takes`: what is read from tokens is ordered, and so are the literals that are left;
* `Json.ordered_of_parse?`: JSON that is read from a text is ordered;
* `Json.Ordered.toValue`: so are the values that it is converted to;
* `Command.Options.givenData_ordered`: so are the variables that a command is given.
-/

namespace SlotTemplate

namespace Json

/-- Each object in JSON has the keys of its members in order, each one once. -/
inductive Ordered : Json → Prop where
  | null : Ordered .null
  | bool (b : Bool) : Ordered (.bool b)
  | number (n : Number) : Ordered (.number n)
  | string (text : String) : Ordered (.string text)
  | array {items : List Json} (all : ∀ j ∈ items, Ordered j) : Ordered (.array items)
  | object {members : Dict Json} (keys : members.Ordered) (all : ∀ j ∈ members.values, Ordered j) :
      Ordered (.object members)

/-! ## Reading -/

/-- The literals among tokens are ordered. -/
def Lexed (ts : List Token) : Prop := ∀ j, .literal j ∈ ts → j.Ordered

theorem Lexed.tail {t : Token} {ts : List Token} (h : Lexed (t :: ts)) : Lexed ts :=
  fun j hj => h j (List.mem_cons_of_mem _ hj)

/-- What is taken from tokens with ordered literals has a property, and it leaves such tokens. -/
def Takes {α : Type} {ts : List Token} (P : α → Prop) (taken : Taken α ts) : Prop :=
  Lexed ts → ∀ a rest, taken = some (a, rest) → P a ∧ Lexed rest.1

/-- By induction on the calls of the three readers, which leave to each other what they take. -/
theorem takes :
    (∀ depth ts, Takes Json.Ordered (value? depth ts)) ∧
      (∀ depth ts, Takes (fun ms => ∀ m ∈ ms, m.2.Ordered) (members? depth ts)) ∧
      ∀ depth ts, Takes (fun js => ∀ j ∈ js, j.Ordered) (items? depth ts) := by
  apply value?.mutual_induct
  -- literals and strings
  case case1 =>
    intro depth j rest h a r taken
    rw [value?] at taken
    cases taken
    exact ⟨h _ List.mem_cons_self, h.tail⟩
  case case2 =>
    intro depth s rest h a r taken
    rw [value?] at taken
    cases taken
    exact ⟨.string s, h.tail⟩
  -- too deep
  case case3 | case7 =>
    intro rest h a r taken
    rw [value?] at taken
    cases taken
  case case5 | case9 =>
    intro rest other h a r taken
    rw [value?, if_pos rfl] at taken
    · cases taken
    · exact other
  -- arrays
  case case4 =>
    intro depth rest shallow h a r taken
    rw [value?, if_neg shallow] at taken
    cases taken
    exact ⟨.array (List.forall_mem_nil _), h.tail.tail⟩
  case case6 =>
    intro depth rest other shallow items h a r taken
    rw [value?, if_neg shallow] at taken
    · obtain ⟨_, found, same⟩ := Option.bind_eq_some_iff.1 taken
      cases same
      obtain ⟨all, left⟩ := items h.tail _ _ found
      exact ⟨.array all, left⟩
    · exact other
  case case14 =>
    intro depth ts value items h a r taken
    rw [items?] at taken
    obtain ⟨⟨j, left, _⟩, found, taken⟩ := Option.bind_eq_some_iff.1 taken
    obtain ⟨here, lexed⟩ := value h _ _ found
    dsimp only at taken
    split at taken
    · cases taken
      exact ⟨List.forall_mem_singleton.2 here, lexed.tail⟩
    · rename_i rest shorter
      obtain ⟨_, found', same⟩ := Option.bind_eq_some_iff.1 taken
      cases same
      obtain ⟨there, lexed'⟩ := items ts rest shorter lexed.tail _ _ found'
      exact ⟨List.forall_mem_cons.2 ⟨here, there⟩, lexed'⟩
    · cases taken
  -- objects
  case case8 =>
    intro depth rest shallow h a r taken
    rw [value?, if_neg shallow] at taken
    cases taken
    exact ⟨.object Dict.ordered_empty Dict.all_empty, h.tail.tail⟩
  case case10 =>
    intro depth rest other shallow members h a r taken
    rw [value?, if_neg shallow] at taken
    · obtain ⟨_, found, same⟩ := Option.bind_eq_some_iff.1 taken
      cases same
      obtain ⟨all, left⟩ := members h.tail _ _ found
      exact ⟨.object Dict.ordered_empty.insertAll (Dict.All.ofList all), left⟩
    · exact other
  case case12 =>
    intro depth key rest value members h a r taken
    rw [members?] at taken
    obtain ⟨⟨j, left, _⟩, found, taken⟩ := Option.bind_eq_some_iff.1 taken
    obtain ⟨here, lexed⟩ := value h.tail.tail _ _ found
    dsimp only at taken
    split at taken
    · cases taken
      exact ⟨List.forall_mem_singleton.2 here, lexed.tail⟩
    · rename_i rest' shorter
      obtain ⟨_, found', same⟩ := Option.bind_eq_some_iff.1 taken
      cases same
      obtain ⟨there, lexed'⟩ := members rest rest' shorter lexed.tail _ _ found'
      exact ⟨List.forall_mem_cons.2 ⟨here, there⟩, lexed'⟩
    · cases taken
  -- nothing of these
  case case11 =>
    intro depth ts _ _ _ _ _ _ h a r taken
    rw [value?] at taken
    · cases taken
    all_goals assumption
  case case13 =>
    intro depth ts other h a r taken
    rw [members?] at taken
    · cases taken
    · exact other

theorem ordered_of_next? {c : Char} {cs rest : List Char} {j : Json}
    (h : Lexer.next? c cs = some (.literal j, rest)) : j.Ordered := by
  have mark : Token.ofMark? c ≠ some (.literal j) := by
    unfold Token.ofMark?
    split <;> simp
  unfold Lexer.next? at h
  split at h
  · rename_i found
    cases h
    exact absurd found mark
  split at h
  · obtain ⟨_, -, same⟩ := Option.map_eq_some_iff.1 h
    cases same
  split at h
  · cases h
    exact .bool true
  · cases h
    exact .bool false
  · cases h
    exact .null
  · obtain ⟨_, -, same⟩ := Option.map_eq_some_iff.1 h
    cases same
    exact .number _

theorem lexed_of_tokens? {cs : List Char} {ts : List Token} (h : Lexer.tokens? cs = some ts) :
    Lexed ts := by
  fun_induction Lexer.tokens? cs generalizing ts with
  | case1 =>
    cases h
    exact fun j hj => absurd hj List.not_mem_nil
  | case2 c cs space ih => exact ih h
  | case3 | case5 => cases h
  | case4 c cs solid t rest read shorter ih =>
    obtain ⟨ts, hts, rfl⟩ := Option.map_eq_some_iff.1 h
    intro j hj
    rcases List.mem_cons.1 hj with rfl | hj
    · exact ordered_of_next? read
    · exact ih hts j hj

theorem ordered_of_parse? {text : String} {j : Json} (h : parse? text = some j) : j.Ordered := by
  obtain ⟨ts, lexed, h⟩ := Option.bind_eq_some_iff.1 h
  obtain ⟨_, read, h⟩ := Option.bind_eq_some_iff.1 h
  obtain ⟨-, same⟩ := Option.ite_none_right_eq_some.1 h
  cases same
  exact (takes.1 127 ts (lexed_of_tokens? lexed) _ _ read).1

/-! ## Values -/

theorem Ordered.toValue {j : Json} (h : j.Ordered) : j.toValue.Ordered := by
  induction h with
  | null => exact .null
  | bool b => exact .bool b
  | string text => exact .string text
  | number n =>
    cases n with
    | real x => exact .float x
    | integer n =>
      rw [Json.toValue, Number.toValue]
      split
      · exact .int _
      · exact .float _
  | array _ ih =>
    rw [Json.toValue, toValues_eq]
    exact .list (List.forall_mem_map.2 ih)
  | object keys _ ih =>
    rw [Json.toValue, toFields_eq]
    refine .map ?_ ?_
    · rwa [Dict.Ordered, Dict.keys_map]
    · rw [Dict.values_map]
      exact List.forall_mem_map.2 ih

theorem Ordered.toData {j : Json} (h : j.Ordered) {data : Data} (given : j.toData? = some data) :
    data.All Value.Ordered := by
  have value := h.toValue
  cases j with
  | object members =>
    cases given
    rw [Json.toValue] at value
    cases value with
    | map _ all => exact all
  | null | bool | number | string | array => cases given

end Json

theorem Command.Options.givenData_ordered {o : Options} {data : Data}
    (h : o.givenData = .ok data) : data.All Value.Ordered := by
  unfold givenData at h
  split at h
  · cases h
    exact Dict.all_empty
  · split at h
    · cases h
    · rename_i j parsed
      split at h
      · rename_i given
        cases h
        exact (Json.ordered_of_parse? parsed).toData given
      · cases h

end SlotTemplate
