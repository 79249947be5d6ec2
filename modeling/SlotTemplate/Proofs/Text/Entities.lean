import Mathlib.Data.List.Basic
import SlotTemplate.Proofs.Text.Bare

/-!
# Entities

The characters that have entities, and the way back to them. A text that is escaped may hold
entities already, or parts of them. Its ampersands have entities as well, so that what comes of it
can be read in one way.

* `escape_eq_self_iff`: escaping changes a text if it holds a character that has an entity;
* `entityAt?_eq_some_iff`: a text starts with at most one entity;
* `Escaped`: the form of an escaped text, which `escape_unescape` shows to be exact;
* `escapeHtml_faithful`: escaping is safe, can be undone and goes part by part.
-/

namespace SlotTemplate.Text

/-! ## Characters that have entities -/

/-- The characters that have entities. -/
def special : List Char := ['&', '<', '>', '"', '\'']

/-- A text without characters that have entities. -/
def Plain (s : String) : Prop := ∀ c ∈ s.toList, c ∉ special

instance (s : String) : Decidable (Plain s) :=
  List.decidableBAll (fun c => c ∉ special) s.toList

variable {c : Char} {cs rest : List Char}

theorem entity_of_plain (h : c ∉ special) : entity c = [c] := by
  simp only [special, List.mem_cons, List.not_mem_nil, or_false, not_or] at h
  simp [entity, h]

/-- An entity is longer than the character that it stands for. -/
theorem length_entity_of_special (h : c ∈ special) : 1 < (entity c).length := by
  simp only [special, List.mem_cons, List.not_mem_nil, or_false] at h
  rcases h with rfl | rfl | rfl | rfl | rfl <;> decide

theorem length_entity_pos (c : Char) : 1 ≤ (entity c).length := by
  by_cases h : c ∈ special
  · exact Nat.le_of_lt (length_entity_of_special h)
  · simp [entity_of_plain h]

theorem escape_cons (c : Char) (cs : List Char) : escape (c :: cs) = entity c ++ escape cs :=
  List.flatMap_cons

theorem length_le_length_escape (cs : List Char) : cs.length ≤ (escape cs).length := by
  induction cs with
  | nil => simp [escape]
  | cons c cs ih =>
    have here := length_entity_pos c
    rw [escape_cons, List.length_append, List.length_cons]
    omega

/-- By the lengths: no other entity makes up for one that is longer than its character. -/
theorem escape_eq_self_iff : escape cs = cs ↔ ∀ c ∈ cs, c ∉ special := by
  constructor
  · intro same c hc special
    obtain ⟨before, after, rfl⟩ := List.append_of_mem hc
    have longer := length_entity_of_special special
    have sizeBefore := length_le_length_escape before
    have sizeAfter := length_le_length_escape after
    have size := congrArg List.length same
    simp only [escape, List.flatMap_append, List.flatMap_cons, List.length_append,
      List.length_cons] at sizeBefore sizeAfter size
    omega
  · intro plain
    induction cs with
    | nil => rfl
    | cons c cs ih =>
      obtain ⟨here, there⟩ := List.forall_mem_cons.1 plain
      rw [escape_cons, entity_of_plain here, ih there, List.singleton_append]

theorem escapeHtml_eq_self_iff {s : String} : escapeHtml s = s ↔ Plain s := by
  rw [Plain, ← escape_eq_self_iff, escapeHtml]
  constructor
  · intro same
    rw [← String.toList_ofList (l := escape s.toList), same]
  · intro same
    rw [same, String.ofList_toList]

/-! ## From entities to characters -/

/-- The entities, each with the character that it stands for. -/
def entities : List (Char × String) :=
  [('&', "&amp;"), ('<', "&lt;"), ('>', "&gt;"), ('"', "&quot;"), ('\'', "&#x27;")]

variable {e : Char × String}

theorem entity_of_mem (h : e ∈ entities) : entity e.1 = e.2.toList := by
  simp only [entities, List.mem_cons, List.not_mem_nil, or_false] at h
  rcases h with rfl | rfl | rfl | rfl | rfl <;> decide

theorem exists_entity (h : c ∈ special) : ∃ e ∈ entities, e.1 = c := by
  have keys : entities.map Prod.fst = special := rfl
  exact List.mem_map.1 (keys ▸ h)

/-- The ampersand that an entity starts with is its only one. -/
theorem head_of_entity (h : e ∈ entities) : ∃ tail, e.2.toList = '&' :: tail ∧ '&' ∉ tail := by
  simp only [entities, List.mem_cons, List.not_mem_nil, or_false] at h
  rcases h with rfl | rfl | rfl | rfl | rfl <;> exact ⟨_, rfl, by decide⟩

/-- No entity is the start of another one. -/
theorem entity_unique {e' : Char × String} (h : e ∈ entities) (h' : e' ∈ entities)
    (starts : e.2.toList <+: e'.2.toList) : e = e' := by
  have apart : ∀ a ∈ entities, ∀ b ∈ entities, a.2.toList <+: b.2.toList → a = b := by decide
  exact apart e h e' h' starts

/-- The character whose entity a text starts with, and what is behind the entity. -/
def entityAt? (cs : List Char) : Option (Char × List Char) :=
  entities.findSome? fun e => (e.2.toList.isPrefixOf? cs).map (e.1, ·)

theorem exists_of_entityAt? (h : entityAt? cs = some (c, rest)) :
    ∃ name, (c, name) ∈ entities ∧ cs = name.toList ++ rest := by
  obtain ⟨⟨d, name⟩, mem, found⟩ := List.exists_of_findSome?_eq_some h
  obtain ⟨rest', behind, same⟩ := Option.map_eq_some_iff.1 found
  cases same
  exact ⟨name, mem, (List.append_eq_of_isPrefixOf?_eq_some behind).symm⟩

theorem entityAt?_eq_some_iff : entityAt? cs = some (c, rest) ↔
    ∃ name, (c, name) ∈ entities ∧ cs = name.toList ++ rest := by
  refine ⟨exists_of_entityAt?, ?_⟩
  rintro ⟨name, mem, rfl⟩
  have some : (entityAt? (name.toList ++ rest)).isSome := by
    refine List.findSome?_isSome_iff.2 ⟨(c, name), mem, ?_⟩
    rw [Option.isSome_map, List.isPrefixOf?_eq_some_iff_append_eq.2 rfl]
    rfl
  obtain ⟨⟨d, rest'⟩, found⟩ := Option.isSome_iff_exists.1 some
  obtain ⟨name', mem', same⟩ := exists_of_entityAt? found
  -- Both entities start the text, so one of them starts the other.
  have one : (c, name) = (d, name') := by
    rcases List.prefix_or_prefix_of_prefix (List.prefix_append name.toList rest)
      (same ▸ List.prefix_append name'.toList rest') with starts | starts
    · exact entity_unique mem mem' starts
    · exact (entity_unique mem' mem starts).symm
  cases one
  rw [found, List.append_cancel_left same]

/-- A text with characters in place of their entities, read from left to right. -/
def unescape : List Char → List Char
  | [] => []
  | c :: cs =>
    match _ : entityAt? (c :: cs) with
    | some (d, rest) => d :: unescape rest
    | none => c :: unescape cs
termination_by cs => cs.length
decreasing_by
  · rename_i found
    obtain ⟨name, mem, same⟩ := exists_of_entityAt? found
    obtain ⟨tail, head, -⟩ := head_of_entity mem
    have size := congrArg List.length same
    simp only [head, List.length_append, List.length_cons] at size ⊢
    omega
  · exact Nat.lt_succ_self _

theorem unescape_entity (h : e ∈ entities) (rest : List Char) :
    unescape (e.2.toList ++ rest) = e.1 :: unescape rest := by
  have found : entityAt? (e.2.toList ++ rest) = some (e.1, rest) :=
    entityAt?_eq_some_iff.2 ⟨e.2, h, rfl⟩
  obtain ⟨tail, head, -⟩ := head_of_entity h
  rw [head, List.cons_append] at found ⊢
  rw [unescape]
  split
  · rename_i again
    cases found.symm.trans again
    rfl
  · rename_i none
    cases found.symm.trans none

theorem unescape_of_none (h : entityAt? (c :: cs) = none) :
    unescape (c :: cs) = c :: unescape cs := by
  rw [unescape]
  split
  · rename_i found
    cases h.symm.trans found
  · rfl

/-- What starts with no ampersand starts with no entity. -/
theorem entityAt?_of_ne (h : c ≠ '&') : entityAt? (c :: cs) = none := by
  cases found : entityAt? (c :: cs) with
  | none => rfl
  | some p =>
    obtain ⟨name, mem, same⟩ := exists_of_entityAt? found
    obtain ⟨tail, head, -⟩ := head_of_entity mem
    rw [head, List.cons_append] at same
    exact absurd (List.head_eq_of_cons_eq same) h

/-- Each step back reads the entity of one character: what that character was does not matter, nor
what comes behind it. -/
theorem unescape_escape (cs : List Char) : unescape (escape cs) = cs := by
  induction cs with
  | nil => rw [escape, List.flatMap_nil, unescape]
  | cons c cs ih =>
    rw [escape_cons]
    by_cases h : c ∈ special
    · obtain ⟨e, mem, rfl⟩ := exists_entity h
      rw [entity_of_mem mem, unescape_entity mem, ih]
    · have other : c ≠ '&' := by
        rintro rfl
        exact h (by decide)
      rw [entity_of_plain h, List.singleton_append, unescape_of_none (entityAt?_of_ne other), ih]

/-! ## The form of an escaped text -/

/-- A text without markup in which each ampersand starts an entity. -/
structure Escaped (cs : List Char) : Prop where
  bare : Bare cs
  opens : ∀ rest, '&' :: rest <:+ cs → ∃ e ∈ entities, e.2.toList <+: '&' :: rest

theorem Escaped.of_suffix {cs' : List Char} (h : Escaped cs) (behind : cs' <:+ cs) : Escaped cs' :=
  ⟨fun c hc => h.bare c (behind.subset hc), fun rest opens => h.opens rest (opens.trans behind)⟩

theorem suffix_of_not_mem {before after : List Char} (h : c ∉ before)
    (ends : c :: rest <:+ before ++ after) : c :: rest <:+ after := by
  induction before with
  | nil => exact ends
  | cons b before ih =>
    obtain ⟨here, there⟩ := not_or.1 (List.mem_cons.not.1 h)
    rcases List.suffix_cons_iff.1 ends with same | ends
    · exact absurd (List.head_eq_of_cons_eq same) here
    · exact ih there ends

theorem Escaped.entity (h : Escaped cs) (c : Char) : Escaped (entity c ++ cs) := by
  refine ⟨(entity_bare c).append h.bare, fun rest ends => ?_⟩
  by_cases hc : c ∈ special
  · obtain ⟨e, mem, rfl⟩ := exists_entity hc
    obtain ⟨tail, head, single⟩ := head_of_entity mem
    rw [entity_of_mem mem, head, List.cons_append] at ends
    rcases List.suffix_cons_iff.1 ends with same | ends
    · rw [same, ← List.cons_append, ← head]
      exact ⟨e, mem, List.prefix_append _ _⟩
    · exact h.opens rest (suffix_of_not_mem single ends)
  · have other : '&' ∉ Text.entity c := by
      rw [entity_of_plain hc, List.mem_singleton]
      rintro rfl
      exact hc (by decide)
    exact h.opens rest (suffix_of_not_mem other ends)

theorem escaped_escape (cs : List Char) : Escaped (escape cs) := by
  induction cs with
  | nil => exact ⟨bare_nil, fun _ ends => absurd (List.suffix_nil.1 ends) (List.cons_ne_nil _ _)⟩
  | cons c cs ih => exact escape_cons c cs ▸ ih.entity c

/-- Where no entity starts, an escaped text has a character without entity. -/
theorem Escaped.plain (h : Escaped (c :: cs)) (none : entityAt? (c :: cs) = none) :
    c ∉ special := by
  intro hc
  have kinds : c = '&' ∨ isMarkup c = true := by
    simp only [special, List.mem_cons, List.not_mem_nil, or_false] at hc
    rcases hc with rfl | rfl | rfl | rfl | rfl <;> decide
  rcases kinds with rfl | markup
  · obtain ⟨e, mem, rest, same⟩ := h.opens cs (List.suffix_refl _)
    cases none.symm.trans (entityAt?_eq_some_iff.2 ⟨e.2, mem, same.symm⟩)
  · cases markup.symm.trans (h.bare c List.mem_cons_self)

/-- A text of this form is what escaping makes of some text. -/
theorem escape_unescape (h : Escaped cs) : escape (unescape cs) = cs := by
  fun_induction unescape cs with
  | case1 => rfl
  | case2 c cs d rest found ih =>
    obtain ⟨name, mem, same⟩ := exists_of_entityAt? found
    have behind : rest <:+ c :: cs := same ▸ List.suffix_append _ _
    rw [escape_cons, ih (h.of_suffix behind), entity_of_mem mem, same]
  | case3 c cs none ih =>
    rw [escape_cons, ih (h.of_suffix (List.suffix_cons c cs)), entity_of_plain (h.plain none),
      List.singleton_append]

/-! ## Texts -/

/-- A text with the characters in place of their entities. -/
def unescapeHtml (s : String) : String := String.ofList (unescape s.toList)

theorem toList_escapeHtml (s : String) : (escapeHtml s).toList = escape s.toList := by
  rw [escapeHtml, String.toList_ofList]

theorem unescapeHtml_escapeHtml (s : String) : unescapeHtml (escapeHtml s) = s := by
  rw [unescapeHtml, toList_escapeHtml, unescape_escape, String.ofList_toList]

/-- An escaped text has no markup, and each of its ampersands starts an entity. With characters in
place of the entities it is the text that was escaped, whatever entities that had. A concatenation
is escaped part by part. The texts of this form are the escaped ones. -/
theorem escapeHtml_faithful :
    (∀ s, Escaped (escapeHtml s).toList) ∧
    (∀ s, unescapeHtml (escapeHtml s) = s) ∧
    Function.Injective escapeHtml ∧
    (∀ s t, escapeHtml (s ++ t) = escapeHtml s ++ escapeHtml t) ∧
    ∀ t, Escaped t.toList ↔ ∃ s, escapeHtml s = t := by
  have escaped (s : String) : Escaped (escapeHtml s).toList :=
    toList_escapeHtml s ▸ escaped_escape s.toList
  refine ⟨escaped, unescapeHtml_escapeHtml, Function.LeftInverse.injective unescapeHtml_escapeHtml,
    fun s t => ?_, fun t => ⟨fun form => ⟨unescapeHtml t, ?_⟩, ?_⟩⟩
  · rw [escapeHtml, String.toList_append, escape_append, String.ofList_append]
    rfl
  · rw [escapeHtml, unescapeHtml, String.toList_ofList, escape_unescape form, String.ofList_toList]
  · rintro ⟨s, rfl⟩
    exact escaped s

/-- Entities in a text stay apart from those that escaping brings in. -/
example : escapeHtml "&lt; <&" = "&amp;lt; &lt;&amp;" := by decide +kernel

end SlotTemplate.Text
