import SlotTemplate.Dict

/-!
# Properties of all entries of a dictionary

* `Dict.All`: kept by insertions, and true of what is found;
* `Dict.get?_insertAll_of_forall`, `Dict.get?_insertAll_of_mem`: what many insertions lead to;
* `Dict.get?_ofList_eq_some_iff`: under each key stands what was inserted last;
* `Dict.Ordered`: insertions keep the keys in order, so that no key comes twice, and which keys
  there are says all about them;
* `Dict.Beside`: entries with the same keys and values that compare, kept by insertions.
-/

namespace SlotTemplate

namespace Dict

variable {α : Type} {P : α → Prop} {d : Dict α} {k : String} {v : α}

/-- A property of all values of a dictionary. -/
def All (P : α → Prop) (d : Dict α) : Prop := ∀ v ∈ d.values, P v

theorem all_empty : (empty : Dict α).All P := List.forall_mem_nil _

theorem mem_of_find? {es : List (String × α)} (h : find? k es = some v) : (k, v) ∈ es := by
  induction es with
  | nil => cases h
  | cons e es ih =>
    obtain ⟨k', v'⟩ := e
    rw [find?] at h
    split at h
    · rename_i same
      cases h
      exact same ▸ List.mem_cons_self
    · exact List.mem_cons_of_mem _ (ih h)

theorem mem_values_of_find? {es : List (String × α)} (h : find? k es = some v) :
    v ∈ es.map Prod.snd :=
  List.mem_map_of_mem (f := Prod.snd) (mem_of_find? h)

theorem ne_of_find?_eq_none {es : List (String × α)} (h : find? k es = none) :
    ∀ p ∈ es, p.1 ≠ k := by
  induction es with
  | nil => exact List.forall_mem_nil _
  | cons e es ih =>
    obtain ⟨k', v'⟩ := e
    rw [find?] at h
    split at h
    · cases h
    · rename_i other
      exact List.forall_mem_cons.2 ⟨other, ih h⟩

theorem mem_of_insertEntry {es : List (String × α)} {p : String × α}
    (h : p ∈ insertEntry k v es) : p = (k, v) ∨ p ∈ es := by
  induction es with
  | nil => exact .inl (List.mem_singleton.1 h)
  | cons e es ih =>
    obtain ⟨k', v'⟩ := e
    rw [insertEntry] at h
    split at h
    · rcases List.mem_cons.1 h with rfl | h
      · exact .inl rfl
      · exact .inr (List.mem_cons_of_mem _ h)
    split at h
    · exact List.mem_cons.1 h
    · rcases List.mem_cons.1 h with rfl | h
      · exact .inr List.mem_cons_self
      · exact (ih h).imp_right (List.mem_cons_of_mem _)

/-- Insertions that say of a key what is said of it already change nothing there. -/
theorem get?_insertAll_of_same {ps : List (String × α)} {v? : Option α}
    (same : ∀ p ∈ ps, p.1 = k → some p.2 = v?) (found : d.get? k = v?) :
    (d.insertAll ps).get? k = v? := by
  induction ps generalizing d with
  | nil => exact found
  | cons p ps ih =>
    obtain ⟨here, there⟩ := List.forall_mem_cons.1 same
    refine ih there ?_
    rw [get?_insert]
    split
    · rename_i e
      exact here e
    · exact found

/-- Insertions under other keys leave an entry as it is. -/
theorem get?_insertAll_of_forall {ps : List (String × α)} (other : ∀ p ∈ ps, p.1 ≠ k) :
    (d.insertAll ps).get? k = d.get? k :=
  get?_insertAll_of_same (fun p hp same => absurd same (other p hp)) rfl

/-- Of insertions under different keys, each one counts. -/
theorem get?_insertAll_of_mem {ps : List (String × α)} (distinct : (ps.map Prod.fst).Nodup)
    (h : (k, v) ∈ ps) : (d.insertAll ps).get? k = some v := by
  induction ps generalizing d with
  | nil => cases h
  | cons p ps ih =>
    obtain ⟨fresh, distinct⟩ := List.nodup_cons.1 distinct
    rcases List.mem_cons.1 h with rfl | h
    · have other : ∀ p ∈ ps, p.1 ≠ k := by
        intro p hp e
        have again : p.1 ∈ ps.map Prod.fst := List.mem_map_of_mem hp
        rw [e] at again
        exact fresh again
      exact (get?_insertAll_of_forall other).trans (get?_insert_self d k v)
    · exact ih distinct h

namespace All

theorem get? (h : d.All P) (found : d.get? k = some v) : P v := h v (mem_values_of_find? found)

theorem insert (h : d.All P) (hv : P v) : (d.insert k v).All P := by
  intro w hw
  obtain ⟨p, hp, rfl⟩ := List.mem_map.1 hw
  rcases mem_of_insertEntry hp with rfl | hp
  · exact hv
  · exact h p.2 (List.mem_map_of_mem hp)

theorem insertAll {ps : List (String × α)} (h : d.All P) (hps : ∀ p ∈ ps, P p.2) :
    (d.insertAll ps).All P := by
  induction ps generalizing d with
  | nil => exact h
  | cons p ps ih =>
    obtain ⟨here, there⟩ := List.forall_mem_cons.1 hps
    exact ih (h.insert here) there

theorem ofList {ps : List (String × α)} (hps : ∀ p ∈ ps, P p.2) : (ofList ps).All P :=
  all_empty.insertAll hps

end All

theorem mem_keys_iff : k ∈ d.keys ↔ ∃ v, d.get? k = some v := by
  constructor
  · intro mem
    cases found : d.get? k with
    | some v => exact ⟨v, rfl⟩
    | none =>
      obtain ⟨p, hp, same⟩ := List.mem_map.1 mem
      exact absurd same (ne_of_find?_eq_none found p hp)
  · rintro ⟨v, found⟩
    exact List.mem_map_of_mem (f := Prod.fst) (mem_of_find? found)

theorem contains_iff : d.contains k = true ↔ k ∈ d.keys := by
  rw [mem_keys_iff, contains, Option.isSome_iff_exists]

theorem get?_eq_none_iff : d.get? k = none ↔ k ∉ d.keys := by
  rw [← contains_iff, contains, Bool.not_eq_true, Option.isSome_eq_false_iff,
    Option.isNone_iff_eq_none]

theorem mem_keys_insert {k' : String} : k' ∈ (d.insert k v).keys ↔ k' = k ∨ k' ∈ d.keys := by
  rw [← contains_iff, ← contains_iff, contains, contains, get?_insert]
  split
  · rename_i same
    simp [same]
  · rename_i other
    simp [Ne.symm other]

/-! ## What is inserted last -/

end Dict

/-- The last of some elements that have a property. -/
def IsLast {α : Type} (P : α → Prop) (xs : List α) (x : α) : Prop :=
  ∃ before after, xs = before ++ x :: after ∧ P x ∧ ∀ y ∈ after, ¬ P y

section

variable {α β : Type} {P : α → Prop} {x y : α} {xs : List α}

theorem isLast_nil : ¬ IsLast P [] x := by
  rintro ⟨before, after, split, -⟩
  cases before <;> cases split

theorem isLast_cons : IsLast P (y :: xs) x ↔ IsLast P xs x ∨ x = y ∧ P y ∧ ∀ z ∈ xs, ¬ P z := by
  constructor
  · rintro ⟨before, after, split, here, others⟩
    cases before with
    | nil =>
      obtain ⟨rfl, rfl⟩ := List.cons.inj split
      exact .inr ⟨rfl, here, others⟩
    | cons z before =>
      obtain ⟨-, rfl⟩ := List.cons.inj split
      exact .inl ⟨before, after, rfl, here, others⟩
  · rintro (⟨before, after, rfl, here, others⟩ | ⟨rfl, here, others⟩)
    · exact ⟨y :: before, after, rfl, here, others⟩
    · exact ⟨[], xs, rfl, here, others⟩

theorem isLast_append {ys : List α} :
    IsLast P (xs ++ ys) x ↔ IsLast P ys x ∨ IsLast P xs x ∧ ∀ y ∈ ys, ¬ P y := by
  induction xs with
  | nil => simp [isLast_nil]
  | cons y xs ih =>
    rw [List.cons_append, isLast_cons, isLast_cons, ih, List.forall_mem_append]
    simp only [or_and_right, or_assoc, and_assoc]

/-- Behind an element that has the property, those in front of it do not matter. -/
theorem isLast_append_cons {ys : List α} (here : P y) :
    IsLast P (xs ++ y :: ys) x ↔ IsLast P ys x ∨ x = y ∧ ∀ z ∈ ys, ¬ P z := by
  rw [isLast_append, isLast_cons]
  simp [here]

theorem exists_isLast (h : ∃ y ∈ xs, P y) : ∃ x, IsLast P xs x := by
  induction xs with
  | nil => simp at h
  | cons y xs ih =>
    by_cases later : ∃ z ∈ xs, P z
    · obtain ⟨x, last⟩ := ih later
      exact ⟨x, isLast_cons.2 (.inl last)⟩
    · have others : ∀ z ∈ xs, ¬ P z := fun z hz here => later ⟨z, hz, here⟩
      obtain ⟨z, hz, here⟩ := h
      rcases List.mem_cons.1 hz with rfl | hz
      · exact ⟨z, isLast_cons.2 (.inr ⟨rfl, here, others⟩)⟩
      · exact absurd here (others z hz)

theorem isLast_flatMap {P : β → Prop} {f : α → List β} {y : β} :
    IsLast P (xs.flatMap f) y ↔ ∃ before x after, xs = before ++ x :: after ∧ IsLast P (f x) y ∧
      ∀ z ∈ after.flatMap f, ¬ P z := by
  induction xs with
  | nil => simp [isLast_nil]
  | cons x xs ih =>
    rw [List.flatMap_cons, isLast_append, ih]
    constructor
    · rintro (⟨before, x', after, rfl, last, others⟩ | ⟨last, others⟩)
      · exact ⟨x :: before, x', after, rfl, last, others⟩
      · exact ⟨[], x, xs, rfl, last, others⟩
    · rintro ⟨before, x', after, split, last, others⟩
      cases before with
      | nil =>
        obtain ⟨rfl, rfl⟩ := List.cons.inj split
        exact .inr ⟨last, others⟩
      | cons z before =>
        obtain ⟨-, rfl⟩ := List.cons.inj split
        exact .inl ⟨before, x', after, rfl, last, others⟩

theorem isLast_map {P : β → Prop} {f : α → β} {y : β} :
    IsLast P (xs.map f) y ↔ ∃ x, f x = y ∧ IsLast (fun x => P (f x)) xs x := by
  induction xs with
  | nil => simp [isLast_nil]
  | cons x xs ih =>
    rw [List.map_cons, isLast_cons, ih]
    constructor
    · rintro (⟨z, rfl, last⟩ | ⟨rfl, here, others⟩)
      · exact ⟨z, rfl, isLast_cons.2 (.inl last)⟩
      · have later : ∀ z ∈ xs, ¬ P (f z) := fun z hz => others (f z) (List.mem_map_of_mem hz)
        exact ⟨x, rfl, isLast_cons.2 (.inr ⟨rfl, here, later⟩)⟩
    · rintro ⟨z, rfl, last⟩
      rcases isLast_cons.1 last with last | ⟨rfl, here, others⟩
      · exact .inl ⟨z, rfl, last⟩
      · exact .inr ⟨rfl, here, List.forall_mem_map.2 others⟩

end

namespace Dict

variable {α : Type} {P : α → Prop} {d : Dict α} {k : String} {v : α}

/-- Insertions go over what was there before. -/
theorem get?_insertAll (d : Dict α) (ps : List (String × α)) (k : String) :
    (d.insertAll ps).get? k = ((ofList ps).get? k).or (d.get? k) := by
  induction ps generalizing d with
  | nil => rfl
  | cons p ps ih =>
    have next (d : Dict α) : d.insertAll (p :: ps) = (d.insert p.1 p.2).insertAll ps := rfl
    rw [ofList, next, next, ih, ih, Option.or_assoc, get?_insert, get?_insert]
    split <;> rfl

theorem get?_ofList_cons (p : String × α) (ps : List (String × α)) (k : String) :
    (ofList (p :: ps)).get? k =
      ((ofList ps).get? k).or (if p.1 = k then some p.2 else none) := by
  have next : ofList (p :: ps) = (empty.insert p.1 p.2).insertAll ps := rfl
  rw [next, get?_insertAll, get?_insert, get?_empty]

theorem get?_ofList_append (ps qs : List (String × α)) (k : String) :
    (ofList (ps ++ qs)).get? k = ((ofList qs).get? k).or ((ofList ps).get? k) := by
  rw [ofList, insertAll, List.foldl_append]
  exact get?_insertAll (ofList ps) qs k

theorem get?_ofList_eq_none_iff {ps : List (String × α)} :
    (ofList ps).get? k = none ↔ ∀ p ∈ ps, p.1 ≠ k := by
  induction ps with
  | nil => simp [ofList, insertAll]
  | cons p ps ih => simp [get?_ofList_cons, ih, and_comm]

/-- Of insertions one after another, the last one under a key counts. -/
theorem get?_ofList_eq_some_iff {ps : List (String × α)} :
    (ofList ps).get? k = some v ↔ IsLast (·.1 = k) ps (k, v) := by
  induction ps with
  | nil => simp [ofList, insertAll, isLast_nil]
  | cons p ps ih =>
    obtain ⟨k', v'⟩ := p
    rw [get?_ofList_cons, Option.or_eq_some_iff, ih, get?_ofList_eq_none_iff, isLast_cons]
    by_cases same : k' = k
    · subst same
      simp [and_comm, eq_comm]
    · simp [same, Ne.symm same]

/-- The same keys with other values. -/
def map {β : Type} (f : α → β) (d : Dict α) : Dict β := ⟨d.entries.map fun p => (p.1, f p.2)⟩

theorem get?_map {β : Type} (f : α → β) (d : Dict α) (k : String) :
    (d.map f).get? k = (d.get? k).map f := by
  obtain ⟨es⟩ := d
  simp only [map, get?]
  induction es with
  | nil => rfl
  | cons e es ih =>
    rw [List.map_cons, find?, find?, ih]
    split <;> rfl

theorem keys_map {β : Type} (f : α → β) (d : Dict α) : (d.map f).keys = d.keys := List.map_map

theorem values_map {β : Type} (f : α → β) (d : Dict α) : (d.map f).values = d.values.map f := by
  simp only [map, values, List.map_map, Function.comp_def]

/-! ## The order of keys -/

/-- The keys stand in order, each one once. -/
def Ordered (d : Dict α) : Prop := d.keys.Pairwise (· < ·)

theorem ordered_empty : (empty : Dict α).Ordered := .nil

namespace Ordered

theorem nodup (h : d.Ordered) : d.keys.Nodup := by
  refine List.Pairwise.imp ?_ h
  rintro a _ lt rfl
  exact String.lt_irrefl a lt

theorem insertEntry {es : List (String × α)} (h : (es.map Prod.fst).Pairwise (· < ·)) :
    ((insertEntry k v es).map Prod.fst).Pairwise (· < ·) := by
  induction es with
  | nil => simp [Dict.insertEntry]
  | cons e es ih =>
    obtain ⟨k', v'⟩ := e
    obtain ⟨first, rest⟩ := List.pairwise_cons.1 h
    rw [Dict.insertEntry]
    split
    · rename_i same
      exact same ▸ h
    split
    · rename_i lt
      refine List.pairwise_cons.2 ⟨List.forall_mem_cons.2 ⟨lt, fun k'' hk => ?_⟩, h⟩
      exact String.lt_trans lt (first k'' hk)
    · rename_i other notLt
      have lt : k' < k := Std.lt_of_le_of_ne (String.not_lt.1 notLt) (Ne.symm other)
      refine List.pairwise_cons.2 ⟨fun k'' hk => ?_, ih rest⟩
      obtain ⟨p, hp, rfl⟩ := List.mem_map.1 hk
      rcases mem_of_insertEntry hp with rfl | hp
      · exact lt
      · exact first p.1 (List.mem_map_of_mem hp)

theorem insert (h : d.Ordered) : (d.insert k v).Ordered := insertEntry h

theorem insertAll {ps : List (String × α)} (h : d.Ordered) : (d.insertAll ps).Ordered := by
  induction ps generalizing d with
  | nil => exact h
  | cons p ps ih => exact ih h.insert

/-- The entries of a dictionary go over those that were there before. -/
theorem get?_insertAll {d' : Dict α} (h : d'.Ordered) :
    (d.insertAll d'.entries).get? k = (d'.get? k).or (d.get? k) := by
  cases found : d'.get? k with
  | some v => exact get?_insertAll_of_mem h.nodup (mem_of_find? found)
  | none => exact get?_insertAll_of_forall (ne_of_find?_eq_none found)

/-- Keys in order are determined by which ones there are. -/
theorem keys_eq {d' : Dict α} (h : d.Ordered) (h' : d'.Ordered)
    (same : ∀ k, k ∈ d.keys ↔ k ∈ d'.keys) : d.keys = d'.keys := by
  have perm : d.keys.Perm d'.keys := (List.perm_ext_iff_of_nodup h.nodup h'.nodup).2 same
  exact perm.eq_of_pairwise
    (fun a b _ _ lt gt => absurd (String.lt_trans lt gt) (String.lt_irrefl a)) h h'

/-- A search among the keys finds the least one that it looks for. -/
theorem find?_keys {p : String → Bool} (h : d.Ordered) (found : d.keys.find? p = some k) :
    k ∈ d.keys ∧ p k = true ∧ ∀ other ∈ d.keys, p other = true → k = other ∨ k < other := by
  obtain ⟨holds, before, after, split, earlier⟩ := List.find?_eq_some_iff_append.1 found
  rw [Ordered, split] at h
  rw [split]
  refine ⟨by simp, holds, fun other mem also => ?_⟩
  rcases List.mem_append.1 mem with mem | mem
  · have refused := earlier other mem
    rw [also] at refused
    cases refused
  · rcases List.mem_cons.1 mem with rfl | mem
    · exact .inl rfl
    · exact .inr ((List.pairwise_cons.1 (List.pairwise_append.1 h).2.1).1 other mem)

end Ordered

/-! ## Dictionaries side by side -/

/-- Entries with the same keys, whose values compare. -/
inductive Beside (R : α → α → Prop) : List (String × α) → List (String × α) → Prop where
  | nil : Beside R [] []
  | cons {k : String} {v v' : α} {es es' : List (String × α)} (here : R v v')
      (rest : Beside R es es') : Beside R ((k, v) :: es) ((k, v') :: es')

namespace Beside

variable {R : α → α → Prop} {es es' : List (String × α)} {v' : α}

theorem refl (h : ∀ v, R v v) (es : List (String × α)) : Beside R es es := by
  induction es with
  | nil => exact .nil
  | cons e es ih => exact .cons (h e.2) ih

theorem keys_eq (h : Beside R es es') : es.map Prod.fst = es'.map Prod.fst := by
  induction h with
  | nil => rfl
  | cons _ _ ih => rw [List.map_cons, List.map_cons, ih]

theorem find? (h : Beside R es es') (k : String) :
    Option.Rel R (Dict.find? k es) (Dict.find? k es') := by
  induction h with
  | nil => exact .none
  | cons here _ ih =>
    rw [Dict.find?, Dict.find?]
    split
    · exact .some here
    · exact ih

theorem insertEntry (h : Beside R es es') (hv : R v v') (k : String) :
    Beside R (Dict.insertEntry k v es) (Dict.insertEntry k v' es') := by
  induction h with
  | nil => exact .cons hv .nil
  | cons here rest ih =>
    rw [Dict.insertEntry, Dict.insertEntry]
    split
    · exact .cons hv rest
    split
    · exact .cons hv (.cons here rest)
    · exact .cons here ih

theorem insertAll {d d' : Dict α} (h : Beside R d.entries d'.entries) (ps : Beside R es es') :
    Beside R (d.insertAll es).entries (d'.insertAll es').entries := by
  induction ps generalizing d d' with
  | nil => exact h
  | cons here _ ih => exact ih (h.insertEntry here _)

end Beside

end Dict

end SlotTemplate
