import SlotTemplate.Proofs.Dict
import SlotTemplate.Value

/-!
# Rendered slots after insertions

Texts are kept as entries, one for each name. An insertion either replaces the text of an entry or
adds an entry at the end, so that names stay distinct and in order.

* `Listed`: the members of a list in the order in which they first come;
* `SlotMap.names_insert`: an insertion adds a name that is new, behind all others, and
  `SlotMap.listed_ofList`: so names are in the order of their first insertions;
* `SlotMap.holds_ofList`: what reads as the text of each slot;
* `SlotMap.ofList_reads`: all that is read from slots after insertions.
-/

namespace SlotTemplate

/-! ## The order of first insertions -/

/-- Whether `a` comes in a list before `b` first does. -/
def ComesBefore {α : Type} (xs : List α) (a b : α) : Prop :=
  ∃ before, before <+: xs ∧ a ∈ before ∧ b ∉ before

/-- The members of a list, each one once, in the order in which they first come there. -/
structure Listed {α : Type} (names xs : List α) : Prop where
  nodup : names.Nodup
  mem : ∀ name, name ∈ names ↔ name ∈ xs
  order : names.Pairwise (ComesBefore xs)

namespace Listed

variable {α : Type} {names xs : List α} {name : α}

theorem nil : Listed ([] : List α) [] := ⟨.nil, fun _ => Iff.rfl, .nil⟩

theorem order_concat (h : Listed names xs) : names.Pairwise (ComesBefore (xs ++ [name])) := by
  refine h.order.imp ?_
  rintro a b ⟨before, starts, ha, hb⟩
  exact ⟨before, starts.trans (List.prefix_append _ _), ha, hb⟩

theorem again (h : Listed names xs) (old : name ∈ names) : Listed names (xs ++ [name]) := by
  refine ⟨h.nodup, fun other => ?_, h.order_concat⟩
  rw [h.mem, List.mem_append, List.mem_singleton]
  constructor
  · exact .inl
  · rintro (there | rfl)
    · exact there
    · exact (h.mem _).1 old

theorem concat (h : Listed names xs) (new : name ∉ names) :
    Listed (names ++ [name]) (xs ++ [name]) := by
  refine ⟨?_, fun other => ?_, ?_⟩
  · refine List.nodup_append.2 ⟨h.nodup, List.pairwise_singleton _ _, fun a ha b hb => ?_⟩
    rintro rfl
    exact new (List.mem_singleton.1 hb ▸ ha)
  · rw [List.mem_append, List.mem_append, h.mem]
  · refine List.pairwise_append.2 ⟨h.order_concat, List.pairwise_singleton _ _, fun a ha b hb => ?_⟩
    obtain rfl := List.mem_singleton.1 hb
    exact ⟨xs, List.prefix_append _ _, (h.mem a).1 ha, fun hb => new ((h.mem b).2 hb)⟩

end Listed

namespace SlotMap

variable {s : SlotMap} {name : String}

/-- What holds of no slots and is kept by insertions holds after any insertions. -/
theorem ofList_induction {P : SlotMap → List (String × String) → Prop} (none : P empty [])
    (insert : ∀ {s texts}, P s texts → ∀ name text,
      P (s.insert name text) (texts ++ [(name, text)])) (texts : List (String × String)) :
    P (ofList texts) texts := by
  -- Insertions come one by one at the end, so the run starts behind any others.
  have run {s : SlotMap} {before : List (String × String)} (h : P s before)
      (after : List (String × String)) :
      P (after.foldl (fun s p => s.insert p.1 p.2) s) (before ++ after) := by
    induction after generalizing s before with
    | nil => rwa [List.append_nil]
    | cons p after ih =>
      rw [List.append_cons]
      exact ih (insert h p.1 p.2)
  exact run none texts

/-! ## Names -/

theorem contains_iff : s.contains name = true ↔ name ∈ s.names := by
  obtain ⟨entries⟩ := s
  rw [contains, names]
  induction entries with
  | nil => exact iff_of_false Bool.false_ne_true List.not_mem_nil
  | cons e entries ih =>
    obtain ⟨n, text⟩ := e
    rw [find?, List.map_cons, List.mem_cons]
    split
    · rename_i same
      exact iff_of_true rfl (.inl same.symm)
    · rename_i other
      rw [ih]
      exact (or_iff_right (Ne.symm other)).symm

/-- An insertion under a name that is there keeps the names as they are. A new name comes last. -/
theorem names_insert (s : SlotMap) (name text : String) : (s.insert name text).names =
    if name ∈ s.names then s.names else s.names ++ [name] := by
  obtain ⟨entries⟩ := s
  rw [insert, names, names]
  induction entries with
  | nil => rfl
  | cons e entries ih =>
    obtain ⟨n, t⟩ := e
    rw [insertEntry]
    split
    · rename_i same
      rw [if_pos (same ▸ List.mem_cons_self)]
      rfl
    · rename_i other
      have there : name ∈ n :: entries.map Prod.fst ↔ name ∈ entries.map Prod.fst :=
        List.mem_cons.trans (or_iff_right (Ne.symm other))
      simp only [List.map_cons, ih, there]
      split
      · rfl
      · rfl

theorem listed_insert {inserted : List String} (h : Listed s.names inserted)
    (name text : String) : Listed (s.insert name text).names (inserted ++ [name]) := by
  rw [names_insert]
  split
  · rename_i old
    exact h.again old
  · rename_i new
    exact h.concat new

theorem listed_ofList (texts : List (String × String)) :
    Listed (ofList texts).names (texts.map Prod.fst) := by
  refine ofList_induction (P := fun s texts => Listed s.names (texts.map Prod.fst)) .nil
    (fun h name text => ?_) texts
  rw [List.map_append]
  exact listed_insert h name text

theorem mem_names_of_get (h : s.get name ≠ "") : name ∈ s.names := by
  refine contains_iff.1 (Option.isSome_iff_ne_none.2 fun none => h ?_)
  rw [get, none]
  rfl

theorem isFilled_iff : s.isFilled name = true ↔ s.get name ≠ "" := by
  simp [isFilled]

/-- Some slot is filled if some name has a text. -/
theorem any_isFilled_iff : s.names.any s.isFilled = true ↔ ∃ name, s.get name ≠ "" := by
  rw [List.any_eq_true]
  constructor
  · rintro ⟨name, -, h⟩
    exact ⟨name, isFilled_iff.1 h⟩
  · rintro ⟨name, h⟩
    exact ⟨name, mem_names_of_get h, isFilled_iff.2 h⟩

/-! ## Texts -/

/-- Under each name reads the last text that came for it; a name without text reads as empty. -/
structure Holds (filled : SlotMap) (texts : List (String × String)) : Prop where
  text : ∀ name text, IsLast (·.1 = name) texts (name, text) → filled.get name = text
  empty : ∀ name, (∀ p ∈ texts, p.1 ≠ name) → filled.get name = ""

theorem Holds.insert {filled : SlotMap} {texts : List (String × String)} (h : filled.Holds texts)
    (name text : String) : (filled.insert name text).Holds (texts ++ [(name, text)]) := by
  constructor
  · intro other text' last
    rw [get_insert]
    rcases isLast_append.1 last with here | ⟨before, others⟩
    · rcases isLast_cons.1 here with none | ⟨same, -, -⟩
      · exact absurd none isLast_nil
      · cases same
        exact if_pos rfl
    · rw [if_neg (others _ (List.mem_singleton_self _))]
      exact h.text other text' before
  · intro other others
    obtain ⟨before, here⟩ := List.forall_mem_append.1 others
    rw [get_insert, if_neg (here _ (List.mem_singleton_self _))]
    exact h.empty other before

theorem holds_ofList (texts : List (String × String)) : (ofList texts).Holds texts := by
  refine ofList_induction ?_ (fun h name text => h.insert name text) texts
  exact ⟨fun _ _ last => absurd last isLast_nil, fun _ _ => rfl⟩

/-! ## All readers -/

/-- What is read from slots that texts were inserted into, one after the other. -/
structure Reads (s : SlotMap) (texts : List (String × String)) : Prop where
  names : Listed s.names (texts.map Prod.fst)
  size : s.size = s.names.length
  text : s.Holds texts
  contains : ∀ name, s.contains name = true ↔ ∃ text, (name, text) ∈ texts
  filled : ∀ name, s.isFilled name = true ↔
    ∃ text, text ≠ "" ∧ IsLast (·.1 = name) texts (name, text)
  truthy : (Value.slots s).isTruthy = true ↔ ∃ name, s.isFilled name = true
  printed : (Value.slots s).text = s.get "slot"
  rendered : ∀ autoescape, (Value.slots s).render autoescape = s.get "slot"

theorem Holds.filled_iff {texts : List (String × String)} (h : s.Holds texts) :
    s.isFilled name = true ↔ ∃ text, text ≠ "" ∧ IsLast (·.1 = name) texts (name, text) := by
  rw [isFilled_iff]
  constructor
  · intro filled
    have inserted : ∃ p ∈ texts, p.1 = name :=
      Classical.byContradiction fun none =>
        filled (h.empty name fun p hp same => none ⟨p, hp, same⟩)
    obtain ⟨⟨n, text⟩, last⟩ := exists_isLast inserted
    obtain ⟨-, -, -, rfl, -⟩ := id last
    exact ⟨text, h.text n text last ▸ filled, last⟩
  · rintro ⟨text, filled, last⟩
    rwa [h.text name text last]

/-- After insertions on no slots, the names are those that were inserted, each one once and in the
order of their first insertions. Under each name is the last text that was inserted, if any was. -/
theorem ofList_reads (texts : List (String × String)) : (ofList texts).Reads texts := by
  have listed := listed_ofList texts
  have holds := holds_ofList texts
  refine ⟨listed, (List.length_map _).symm, holds, fun name => ?_, fun name => holds.filled_iff,
    ?_, rfl, fun autoescape => ?_⟩
  · rw [contains_iff, listed.mem, List.mem_map]
    constructor
    · rintro ⟨⟨n, text⟩, mem, rfl⟩
      exact ⟨text, mem⟩
    · rintro ⟨text, mem⟩
      exact ⟨(name, text), mem, rfl⟩
  · rw [Value.isTruthy, any_isFilled_iff]
    exact exists_congr fun name => isFilled_iff.symm
  · rw [Value.render, Value.isSafe, Bool.not_true, Bool.and_false]
    rfl

example :
    let s := ofList [("title", "1"), ("slot", "2"), ("title", "3"), ("slot", "")]
    s.names = ["title", "slot"] ∧ s.get "title" = "3" ∧ s.contains "slot" = true ∧
      s.isFilled "slot" = false := by
  decide

end SlotMap

end SlotTemplate
