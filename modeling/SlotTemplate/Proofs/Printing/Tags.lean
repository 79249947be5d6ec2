import SlotTemplate.Proofs.Dict
import SlotTemplate.Proofs.Printing.Spelling

/-!
# Names of tags

* `Component.Regular.not_isEndName`: no tag that invokes a regular component ends a part of a block;
* `Library.Additional.component`, `Library.Standard.merge`: regular components do not change what
  the tags of every template mean.
-/

namespace SlotTemplate

open Argument

/-- Whether a tag of this name may end a part of a block. -/
def isEndName (name : String) : Bool :=
  ["else", "endif", "empty", "endfor"].contains name || name.toList.head? == some '/'

/-! ## Components -/

namespace Component.Regular

variable {c : Component}

theorem openTag_eq (h : c.Regular) : c.openTag = c.qualifiedName := by
  have pattern : "{name}".toList = ['{', 'n', 'a', 'm', 'e', '}'] := by decide
  rw [openTag, tagName, h.openPattern, pattern, instantiate, instantiate, List.append_nil,
    String.ofList_toList]

theorem inlineTag_eq (h : c.Regular) : c.inlineTag = c.qualifiedName ++ "/" := by
  have pattern : "{name}/".toList = ['{', 'n', 'a', 'm', 'e', '}', '/'] := by decide
  rw [inlineTag, tagName, h.inlinePattern, pattern]
  simp [instantiate, String.ofList_append]

theorem closeTag_eq (h : c.Regular) : c.closeTag = "/" ++ c.qualifiedName := by
  have pattern : "/{name}".toList = ['/', '{', 'n', 'a', 'm', 'e', '}'] := by decide
  rw [closeTag, tagName, h.closePattern, pattern]
  simp [instantiate, String.ofList_cons]

/-- A qualified name starts like a name and goes on with names and a colon. -/
theorem qualifiedName_form (h : c.Regular) :
    ∃ d ds, c.qualifiedName.toList = d :: ds ∧ isIdentStart d = true ∧
      ∀ x ∈ c.qualifiedName.toList, isIdentPart x = true ∨ x = ':' := by
  have parts {s : String} (identifier : isIdentifier s = true) :
      ∀ x ∈ s.toList, isIdentPart x = true := by
    obtain ⟨d, ds, spelled, start, parts⟩ := exists_of_isIdentifier identifier
    rw [spelled]
    exact List.forall_mem_cons.2 ⟨isIdentPart_of_isIdentStart start, parts⟩
  have name := parts h.name
  rw [qualifiedName]
  cases hs : c.space? with
  | none =>
    obtain ⟨d, ds, spelled, start, -⟩ := exists_of_isIdentifier h.name
    exact ⟨d, ds, spelled, start, fun x hx => .inl (name x hx)⟩
  | some space =>
    have first := parts (h.space space hs)
    obtain ⟨d, ds, spelled, start, -⟩ := exists_of_isIdentifier (h.space space hs)
    refine ⟨d, ds ++ ':' :: c.name.toList, by simp [spelled], start, fun x hx => ?_⟩
    simp only [String.toList_append, List.mem_append] at hx
    rcases hx with (hx | hx) | hx
    · exact .inl (first x hx)
    · exact .inr (by simpa using hx)
    · exact .inl (name x hx)

theorem solid_qualifiedName (h : c.Regular) : Solid c.qualifiedName.toList := by
  obtain ⟨d, ds, -, -, parts⟩ := h.qualifiedName_form
  intro x hx
  rcases parts x hx with part | rfl
  · exact isSolid_of_isIdentPart part
  · decide

theorem slash_not_mem (h : c.Regular) : '/' ∉ c.qualifiedName.toList := by
  obtain ⟨d, ds, -, -, parts⟩ := h.qualifiedName_form
  intro hx
  rcases parts '/' hx with part | colon
  · exact absurd part (by decide)
  · exact absurd colon (by decide)

/-- The tags of a component can be written. -/
theorem writable (h : c.Regular) {tag : String} (ht : tag = c.inlineTag ∨ tag = c.openTag)
    {args : List Char} (attached : Attached args) : Tag.Writable tag args := by
  obtain ⟨d, ds, form, -, -⟩ := h.qualifiedName_form
  have solid := h.solid_qualifiedName
  rcases ht with rfl | rfl
  · rw [h.inlineTag_eq]
    refine ⟨?_, by simp, attached⟩
    rw [String.toList_append]
    exact solid.append (.singleton (by decide))
  · rw [h.openTag_eq]
    exact ⟨solid, by simp [form], attached⟩

theorem writable_closeTag (h : c.Regular) : Tag.Writable c.closeTag [] := by
  rw [h.closeTag_eq]
  refine ⟨?_, by simp, .nil⟩
  rw [String.toList_append]
  exact Solid.append (.singleton (by decide)) h.solid_qualifiedName

theorem isEndName_closeTag (h : c.Regular) : isEndName c.closeTag = true := by
  simp [isEndName, h.closeTag_eq]

/-- No tag that invokes a component ends a part of a block. -/
theorem not_isEndName (h : c.Regular) {tag : String} (ht : tag = c.inlineTag ∨ tag = c.openTag) :
    isEndName tag = false := by
  obtain ⟨d, ds, form, start, -⟩ := h.qualifiedName_form
  have first : d ≠ '/' := by
    rintro rfl
    exact absurd start (by decide)
  rcases ht with rfl | rfl
  · rw [h.inlineTag_eq]
    have slash : ∀ name ∈ ["else", "endif", "empty", "endfor"], '/' ∉ name.toList := by decide
    have other : c.qualifiedName ++ "/" ∉ ["else", "endif", "empty", "endfor"] := fun hm =>
      slash _ hm (by simp)
    simp [isEndName, form, first, other]
  · rw [h.openTag_eq]
    have free := h.free
    have subset : ∀ name ∈ ["else", "endif", "empty", "endfor"], name ∈ reservedNames := by decide
    have other : c.qualifiedName ∉ ["else", "endif", "empty", "endfor"] := fun hm =>
      free (subset _ hm)
    simp [isEndName, form, first, other]

end Component.Regular

/-! ## Libraries -/

/-- The tags of blocks that every template may use. -/
def standardNames : List String := ["if", "for", "slot", "slot/"]

/-- No tag that invokes a component is one that every template may use. -/
theorem Component.Regular.not_standard {c : Component} (h : c.Regular) {tag : String}
    (ht : tag = c.inlineTag ∨ tag = c.openTag) : tag ∉ standardNames := by
  have slash := h.slash_not_mem
  have free := h.free
  rcases ht with rfl | rfl
  · rw [h.inlineTag_eq]
    intro hm
    have names : ∀ name ∈ standardNames, '/' ∈ name.toList → name = "slot" ++ "/" := by decide
    have same := congrArg String.toList (names _ hm (by simp))
    simp only [String.toList_append, List.append_cancel_right_eq, String.toList_inj] at same
    exact free (same ▸ by decide)
  · rw [h.openTag_eq]
    intro hm
    have names : ∀ name ∈ standardNames, '/' ∉ name.toList → name ∈ reservedNames := by decide
    exact free (names _ hm slash)

namespace Library

variable {l : Library}

/-- A library binds none of the tags that every template may use. -/
def Additional (l : Library) : Prop := ∀ p ∈ l.tags.entries, p.1 ∉ standardNames

theorem additional_empty : empty.Additional := by
  rintro p ⟨⟩

theorem Additional.tag (h : l.Additional) {name : String} (other : name ∉ standardNames)
    (b : Binding) : (l.tag name b).Additional := by
  intro p hp
  rcases Dict.mem_of_insertEntry hp with rfl | hp
  · exact other
  · exact h p hp

/-- A library stays additional when both forms of a regular component are registered. -/
theorem Additional.component (h : l.Additional) {c : Component} (regular : c.Regular) :
    (l.component c).Additional := by
  have inline : (l.tag c.inlineTag (.inline c)).Additional :=
    h.tag (regular.not_standard (.inl rfl)) _
  exact Additional.tag (l := l.inlineComponent c) inline (regular.not_standard (.inr rfl)) _

theorem standard_builtin : builtin.Standard := ⟨rfl, rfl, rfl, rfl⟩

theorem Standard.merge (h : l.Standard) {other : Library} (additional : other.Additional) :
    (l.merge other).Standard := by
  have kept {name : String} (hn : name ∈ standardNames) :
      (l.merge other).binding? name = l.binding? name :=
    Dict.get?_insertAll_of_forall fun p hp e => additional p hp (e ▸ hn)
  exact ⟨(kept (by decide)).trans h.conditional, (kept (by decide)).trans h.loop,
    (kept (by decide)).trans h.slot, (kept (by decide)).trans h.slotOutput⟩

end Library

end SlotTemplate
