import SlotTemplate.Proofs.Derivation.Exchange
import SlotTemplate.Proofs.Printing.Grammar
import SlotTemplate.Proofs.Printing.Pieces
import SlotTemplate.Proofs.Tree.SlotTags

/-!
# Sources with slot tags written out

In a source, the tags around the place of a slot give way to those of a condition on the variable
`slots`, with the content of the place between them. The new source compiles to the same template up
to slot tags that are written out.

* `Engine.WritesOut`: one slot tag of a source is written out, outside the bodies of invocations;
* `Exchange.written_marker`, `Exchange.written_output`: what this comes to at the place of the tag;
* `Engine.WritesOut.compileNamed`: what it comes to in the whole source;
* `Engine.ReadsConditions.exists_writesOut`: where conditions can be written everywhere, every slot
  tag outside the bodies of invocations can be written out.
-/

namespace SlotTemplate

open Markup

/-! ## Nodes -/

theorem restates_relocate : Restates id (Node.relocate .erased) (Node.relocate .erased) where
  left := recasts_relocate .erased
  right := recasts_relocate .erased
  text _ := rfl
  slotOutput _ := rfl
  empty := rfl
  invocation c tag args r slots slots' span span' same := by
    have contents : relocateSlots .erased slots = relocateSlots .erased slots' := by
      simpa only [relocateSlots_eq_map, relocateAll_eq_map] using same
    simp only [Node.relocate, contents, List.map_map, Function.comp_def, Argument.erased_relocate]
    rfl
  texts token := token
  blocks token := token
  outputs token valid := by
    refine ⟨_, token, fun offset' line' => ?_⟩
    obtain ⟨r, moves⟩ := Relocation.exists_moves _ offset'
    refine ⟨_, Expr.ofVariable_relocate moves valid line', ?_⟩
    rw [Node.relocate, Node.relocate, Expr.erased_relocate]

/-- Nodes that are written out do not show where they stand, and a block that is no invocation goes
by its parts. -/
theorem compares_writeOut : Compares Node.writeOut fun b => ∀ c, b ≠ .block c where
  restate derives same := by
    obtain ⟨d', ns', lexemes, derives', alike⟩ :=
      derives.restate_forms restates_relocate (by rwa [List.map_id])
    refine ⟨d', ns', lexemes, derives', ?_⟩
    rw [← writeOutAll_eq_map, ← writeOutAll_eq_map, writeOutAll_of_relocate alike]
  rebuild inPlay builds one two := by
    have none {ns : List Node} (e : ([] : List Node).map Node.writeOut = ns.map Node.writeOut) :
        ns = [] := List.map_eq_nil_iff.1 e.symm
    cases builds with
    | conditional header =>
      refine ⟨_, .conditional header, ?_⟩
      simp only [Node.writeOut, writeOutAll_eq_map, one, two]
    | loop header =>
      refine ⟨_, .loop header, ?_⟩
      simp only [Node.writeOut, writeOutAll_eq_map, one, two]
    | slot header =>
      cases none two
      refine ⟨_, .slot header, ?_⟩
      simp only [Node.writeOut, writeOutAll_eq_map, one]
    | slotOutput header | inline header =>
      cases none one
      cases none two
      exact ⟨_, by constructor; exact header, rfl⟩
    | block => exact absurd rfl (inPlay _)
    | plain =>
      cases none one
      cases none two
      exact ⟨_, .plain, rfl⟩

/-- An expression that says the same as a lookup of a slot is that lookup at another place. -/
theorem Expr.relocate_of_erase {e : Expr} {name : String}
    (same : e.erase = (slotLookup name).erase) : e.relocate .erased = slotLookup name := by
  obtain ⟨primary, filters, span⟩ := e
  obtain ⟨primary, filters, -⟩ := Expr.mk.inj same
  obtain rfl := List.map_eq_nil_iff.1 filters
  subst primary
  rfl

/-- A lexeme is a variable that shows a slot. -/
def Markup.Lexeme.Shows (slot : String) (l : Lexeme) : Prop :=
  ∃ contents offset e, l.token = .variable contents offset ∧
    Expr.ofVariable contents offset l.line = .ok e ∧ e.relocate .erased = slotLookup slot

/-- A tag has the condition that a slot is filled. -/
def Tag.AsksFor (slot : String) (t : Tag) : Prop :=
  ∃ condition, t.condition = .ok condition ∧ condition.negated = false ∧
    condition.expr.relocate .erased = slotLookup slot

/-! ## At the place of a tag -/

/-- What is read up to one tag can be read up to another one that nothing binds. -/
theorem Derives.await {libraries : Dict Library} {ends : List String} {tags tags' : Dict Binding}
    {d : Derivation} {ns : List Node} (h : Derives libraries ends tags d ns tags') {name : String}
    (unbound : ∀ l ∈ libraries.values, ∀ p ∈ l.tags.entries, p.1 = name → some p.2 = none)
    (free : tags.get? name = none) : Derives libraries [name] tags d ns tags' := by
  have opens' {head : Head} {ends : List String} {tags : Dict Binding}
      (opens : head.Opens ends tags) (free : tags.get? name = none) :
      head.Opens [name] tags := by
    refine ⟨opens.token, fun awaited => ?_, opens.bound⟩
    have bound := opens.bound
    rw [List.mem_singleton.1 awaited, free] at bound
    cases bound
  induction h with
  | nil => exact .nil
  | text token _ ih => exact .text token (ih free)
  | output token valid _ ih => exact .output token valid (ih free)
  | load opens load named loads _ ih =>
    exact .load (opens' opens free) load named loads (ih (loads.get?_eq unbound free))
  | single opens form builds _ ih => exact .single (opens' opens free) form builds (ih free)
  | block opens form content closes builds _ _ ih =>
    exact .block (opens' opens free) form content closes builds (ih (content.get?_eq unbound free))
  | divided opens form content divides more closes builds _ _ _ ih =>
    exact .divided (opens' opens free) form content divides more closes builds
      (ih (more.get?_eq unbound (content.get?_eq unbound free)))

section

variable {libraries : Dict Library} {ends : List String} {tags tags' : Dict Binding}
  {opening : Lexeme} {tag : Tag} {slot : String} {rest ls left : List Lexeme} {d : Derivation}
  {ns : List Node} (named : tag.slotName = .ok slot)
  (derives : Derives libraries ends tags d ns tags') (stops : Stops ends left)

include named derives stops

/-- A condition in place of the place of a slot. -/
theorem Exchange.written_marker (opens : (⟨opening, tag, .slot⟩ : Head).Opens ends tags)
    {inner : Derivation} {content : List Node} {tags₁ : Dict Binding} {closing : Lexeme}
    (inside : ∀ last ∈ ["/slot", "endif"], Derives libraries [last] tags inner content tags₁)
    (closes : closing.Named "/slot") {opening' shown dividing closing' : Lexeme} {tag' : Tag}
    (opens' : (⟨opening', tag', .conditional⟩ : Head).Opens ends tags) (asks : tag'.AsksFor slot)
    (shows : shown.Shows slot) (divides : dividing.Named "else") (closes' : closing'.Named "endif")
    (split : opening :: (inner.lexemes ++ closing :: rest) = d.lexemes ++ left)
    (same : SameTokens (inner.lexemes ++ closing' :: rest) ls) :
    Exchange Node.writeOut libraries ends tags (opening :: (inner.lexemes ++ closing :: rest))
      (opening' :: shown :: dividing :: ls) := by
  obtain ⟨condition, header, plain, question⟩ := asks
  obtain ⟨contents, offset, e, token, valid, answer⟩ := shows
  obtain ⟨inner', closing₁, d₁, body, node, ns₁, tags₂, rfl, rfl, content', closes₁, builds, more,
      e₁⟩ |
    ⟨_, _, _, _, _, _, _, _, _, _, _, _, divided, -⟩ := derives.block_inv opens rfl split stops
  case inr => cases divided
  obtain ⟨rfl, rfl, rfl, e₂⟩ :=
    (inside "/slot" (by simp)).unique content' e₁ (.tag closes (by simp)) (.tag closes₁ (by simp))
  obtain ⟨rfl, rfl⟩ := List.cons.inj e₂
  -- the lexemes of the content, of the tag behind it and of what follows, at their new places
  obtain ⟨_, _, rfl, first, behind⟩ := same.append_inv
  obtain ⟨inner', content', rfl, inside', alike⟩ :=
    compares_writeOut.restate (inside "endif" (by simp)) first
  obtain ⟨closing'', d', ns', left', rfl, closes'', more', alike', last⟩ :=
    compares_writeOut.restate_behind more closes' behind
  cases builds with
  | slot header' =>
    cases named.symm.trans header'
    refine ⟨_, _, .divided ⟨opening', tag', .conditional⟩ (.output shown .nil) dividing inner'
      closing'' d', _, tags', left, left', split, by simp [Derivation.lexemes], derives,
      .divided opens' rfl (.output token valid .nil) divides inside' closes''
        (.conditional header) more', ?_, stops, last⟩
    rw [List.map_cons, List.map_cons, alike']
    simp only [Node.writeOut, writeOutAll_eq_map, List.map_cons, List.map_nil, plain, question,
      answer, alike]

/-- A variable in place of the place of a slot without content. -/
theorem Exchange.written_output (opens : (⟨opening, tag, .slotOutput⟩ : Head).Opens ends tags)
    {shown : Lexeme} (shows : shown.Shows slot) (split : opening :: rest = d.lexemes ++ left)
    (same : SameTokens rest ls) :
    Exchange Node.writeOut libraries ends tags (opening :: rest) (shown :: ls) := by
  obtain ⟨contents, offset, e, token, valid, answer⟩ := shows
  have first := derives.head?_eq opens split stops
  cases derives with
  | nil | text | output => cases first
  | load _ load =>
    cases first
    cases load
  | block _ form | divided _ form =>
    cases first
    cases form
  | single opens' alone builds more =>
    cases first
    obtain rfl := (List.cons.inj split).2
    obtain ⟨_, left', rfl, here, there⟩ := same.append_inv
    obtain ⟨d', ns', rfl, more', alike⟩ := compares_writeOut.restate more here
    cases builds with
    | slotOutput header =>
      cases named.symm.trans header
      refine ⟨_, _, .output shown d', _, tags', left, left', split, by simp [Derivation.lexemes],
        .single opens' alone (.slotOutput header) more, .output token valid more', ?_, stops, there⟩
      rw [List.map_cons, List.map_cons, alike]
      simp only [Node.writeOut, answer]

end

/-! ## Texts -/

/-- The variable that shows a slot. -/
def slotVariable (slot : String) : String := "\x7b\x7b slots." ++ slot ++ " \x7d\x7d"

/-- The tag that asks whether a slot is filled. -/
def slotCondition (slot : String) : String := Tag.written "if" (" slots." ++ slot)

section

variable {slot : String}

/-- The variable that shows a slot, as a piece of a source. -/
def slotVariablePiece (slot : String) : Piece :=
  .markup .variable (' ' :: ((slotLookup slot).spell .double ++ [' ']))

theorem slotLookup_spell (slot : String) :
    (slotLookup slot).spell .double = "slots.".toList ++ slot.toList := by
  simp [slotLookup, Expr.spell, Primary.spell, spellKeys]

theorem slotVariable_toList (slot : String) :
    (slotVariable slot).toList = (slotVariablePiece slot).source := by
  simp [slotVariable, slotVariablePiece, slotLookup_spell, Piece.source, Delimiter.opening,
    Delimiter.guard]

theorem slotCondition_toList (slot : String) :
    (slotCondition slot).toList =
      (tagPiece "if" (' ' :: (slotLookup slot).spell .double)).source := by
  rw [slotCondition, Tag.written_toList, slotLookup_spell, tagPiece, String.toList_append]
  rfl

theorem slotLookup_printable (identifier : isIdentifier slot = true) :
    (slotLookup slot).Printable :=
  ⟨⟨by decide, by decide, by simp, List.forall_mem_singleton.2 (.inl identifier)⟩,
    List.forall_mem_nil _⟩

theorem slotVariablePiece_closed (identifier : isIdentifier slot = true) :
    (slotVariablePiece slot).Closed := by
  have compact := Expr.compact (q := .double) (slotLookup_printable identifier)
  exact ⟨_, _, rfl, body_of_splitClose (sealed_of_shielded .variable compact.shielded [])⟩

theorem Tag.Writable.closed {name : String} {args : List Char} (h : Tag.Writable name args) :
    (tagPiece name args).Closed :=
  ⟨_, _, rfl, body_of_splitClose (h.sealed [])⟩

/-- The variable is the next lexeme. -/
theorem place_slotVariable (identifier : isIdentifier slot = true) (pos line : Nat)
    (ps : List Piece) :
    ∃ l pos' line', place pos line (slotVariablePiece slot :: ps) = l :: place pos' line' ps ∧
      l.Shows slot := by
  have printable := slotLookup_printable identifier
  obtain ⟨l, offset, pos', line', placed, token⟩ :=
    place_variable (q := .double) printable pos line ps
  obtain ⟨e, valid, same⟩ := Expr.ofVariable_spell (q := .double) printable offset l.line
  exact ⟨l, pos', line', placed, _, offset, e, token, valid, Expr.relocate_of_erase same⟩

/-- The tag that asks for the slot has that condition. -/
theorem Tag.Spells.asksFor {tag : Tag} (identifier : isIdentifier slot = true)
    (spells : tag.Spells "if" (' ' :: (slotLookup slot).spell .double)) : tag.AsksFor slot := by
  have reads : ∃ condition, tag.condition = .ok condition ∧ condition.negated = false ∧
      condition.expr.erase = (slotLookup slot).erase :=
    Tag.condition_spells (slotLookup_printable identifier) spells
  obtain ⟨condition, header, plain, same⟩ := reads
  exact ⟨condition, header, plain, Expr.relocate_of_erase same⟩

variable {source : String} {read rest : List Lexeme} {l : Lexeme} {tag : Tag}

/-- A source with a written tag in place of a tag. -/
theorem tokenize_replace_tag {name : String} (writable : Tag.Writable name [])
    (stands : tokenize source = read ++ l :: rest) (token : l.token = .block tag) :
    ∃ l' rest', tokenize (replace source l.span (Tag.written name "")) = read ++ l' :: rest' ∧
      l'.Named name ∧ SameTokens rest rest' := by
  have written : (Tag.written name "").toList = [tagPiece name []].flatMap Piece.source := by
    rw [Tag.written_toList, List.flatMap_singleton]
    rfl
  obtain ⟨pos, line, rest', tokens, same⟩ :=
    tokenize_replace stands token (List.forall_mem_singleton.2 writable.closed) written
  obtain ⟨l', tag', pos', line', placed, token', spells⟩ := writable.place pos line []
  rw [placed] at tokens
  exact ⟨l', rest', tokens, ⟨tag', token', spells.name_eq⟩, same⟩

/-- A source with the variable that shows a slot in place of a tag. -/
theorem tokenize_replace_slotVariable (identifier : isIdentifier slot = true)
    (stands : tokenize source = read ++ l :: rest) (token : l.token = .block tag) :
    ∃ shown rest', tokenize (replace source l.span (slotVariable slot)) =
      read ++ shown :: rest' ∧ shown.Shows slot ∧ SameTokens rest rest' := by
  have written : (slotVariable slot).toList = [slotVariablePiece slot].flatMap Piece.source := by
    rw [slotVariable_toList, List.flatMap_singleton]
  obtain ⟨pos, line, rest', tokens, same⟩ := tokenize_replace stands token
    (List.forall_mem_singleton.2 (slotVariablePiece_closed identifier)) written
  obtain ⟨shown, pos', line', placed, shows⟩ := place_slotVariable identifier pos line []
  rw [placed] at tokens
  exact ⟨shown, rest', tokens, shows, same⟩

/-- A source with the start of a condition in place of a tag. -/
theorem tokenize_replace_slotCondition (identifier : isIdentifier slot = true)
    (stands : tokenize source = read ++ l :: rest) (token : l.token = .block tag) :
    ∃ opening tag' shown dividing rest', tokenize (replace source l.span
        (slotCondition slot ++ slotVariable slot ++ Tag.written "else" "")) =
      read ++ opening :: shown :: dividing :: rest' ∧ opening.token = .block tag' ∧
      tag'.name = "if" ∧ tag'.AsksFor slot ∧ shown.Shows slot ∧ dividing.Named "else" ∧
      SameTokens rest rest' := by
  have asks : Tag.Writable "if" (' ' :: (slotLookup slot).spell .double) :=
    writable_condition false (slotLookup_printable identifier)
  have divides : Tag.Writable "else" [] := .of_all (by decide) (by decide) .nil
  let parts := [tagPiece "if" (' ' :: (slotLookup slot).spell .double), slotVariablePiece slot,
    tagPiece "else" []]
  have written : (slotCondition slot ++ slotVariable slot ++ Tag.written "else" "").toList =
      parts.flatMap Piece.source := by
    simp only [parts, String.toList_append, slotCondition_toList, slotVariable_toList,
      Tag.written_toList, List.flatMap_cons, List.flatMap_nil, List.append_nil, List.append_assoc]
    rfl
  have closed : ∀ p ∈ parts, p.Closed := List.forall_mem_cons.2 ⟨asks.closed, List.forall_mem_cons.2
    ⟨slotVariablePiece_closed identifier, List.forall_mem_singleton.2 divides.closed⟩⟩
  obtain ⟨pos, line, rest', tokens, same⟩ := tokenize_replace stands token closed written
  obtain ⟨opening, tag', pos₁, line₁, placed₁, token', spells⟩ :=
    asks.place pos line [slotVariablePiece slot, tagPiece "else" []]
  obtain ⟨shown, pos₂, line₂, placed₂, shows⟩ :=
    place_slotVariable identifier pos₁ line₁ [tagPiece "else" []]
  obtain ⟨dividing, tag'', pos₃, line₃, placed₃, token'', spells'⟩ := divides.place pos₂ line₂ []
  rw [placed₁, placed₂, placed₃] at tokens
  exact ⟨opening, tag', shown, dividing, rest', tokens, token', spells.name_eq,
    spells.asksFor identifier, shows, ⟨tag'', token'', spells'.name_eq⟩, same⟩

end

/-! ## Sources -/

namespace Engine

/-- A slot tag of a source is written out at a place outside the bodies of invocations. The tags
around the place of a slot give way to those of a condition, where such tags have their usual
meaning and so does its content between them; a tag that stands for a place without content gives
way to a variable. -/
inductive WritesOut (e : Engine) (source : String) : String → Prop where
  | marker {read rest : List Lexeme} {heads : List Head} {blocks : List OpenBlock}
      {tags tags' : Dict Binding} {opening closing : Lexeme} {tag : Tag} {slot : String}
      {inner : Derivation} {content : List Node}
      (arrives : Arrives e.libraries e.builtins.tags read heads blocks tags)
      (outside : ∀ block ∈ blocks, ∀ c, block.head.binding ≠ .block c)
      (opens : (⟨opening, tag, .slot⟩ : Head).Opens (awaited blocks) tags)
      (named : tag.slotName = .ok slot) (identifier : isIdentifier slot = true)
      (conditions : tags.get? "if" = some .conditional)
      (inside : ∀ last ∈ ["/slot", "endif"], Derives e.libraries [last] tags inner content tags')
      (closes : closing.Named "/slot")
      (stands : tokenize source = read ++ opening :: (inner.lexemes ++ closing :: rest)) :
      WritesOut e source (replace (replace source closing.span (Tag.written "endif" ""))
        opening.span (slotCondition slot ++ slotVariable slot ++ Tag.written "else" ""))
  | output {read rest : List Lexeme} {heads : List Head} {blocks : List OpenBlock}
      {tags : Dict Binding} {opening : Lexeme} {tag : Tag} {slot : String}
      (arrives : Arrives e.libraries e.builtins.tags read heads blocks tags)
      (outside : ∀ block ∈ blocks, ∀ c, block.head.binding ≠ .block c)
      (opens : (⟨opening, tag, .slotOutput⟩ : Head).Opens (awaited blocks) tags)
      (named : tag.slotName = .ok slot) (identifier : isIdentifier slot = true)
      (stands : tokenize source = read ++ opening :: rest) :
      WritesOut e source (replace source opening.span (slotVariable slot))

variable {e : Engine} {source source' name : String} {t : Template}

/-- Outside the bodies of invocations, no block ends with the tag that opens a condition. -/
theorem if_not_awaited {libraries : Dict Library} {builtins tags : Dict Binding}
    {read : List Lexeme} {heads : List Head} {blocks : List OpenBlock}
    (arrives : Arrives libraries builtins read heads blocks tags)
    (outside : ∀ block ∈ blocks, ∀ c, block.head.binding ≠ .block c) : "if" ∉ awaited blocks := by
  cases blocks with
  | nil => exact List.not_mem_nil
  | cons block outer =>
    intro mem
    have mem := arrives.ends_subset block List.mem_cons_self mem
    cases b : block.head.binding with
    | block c => exact outside block List.mem_cons_self c b
    | _ => simp [b, Binding.ends, Binding.form] at mem

/-- An exchange at a place of a source is one of compiled templates. -/
theorem compileNamed_of_exchange {read ls ls' : List Lexeme} {heads : List Head}
    {blocks : List OpenBlock} {tags : Dict Binding}
    (arrives : Arrives e.libraries e.builtins.tags read heads blocks tags)
    (outside : ∀ block ∈ blocks, ∀ c, block.head.binding ≠ .block c)
    (stands : tokenize source = read ++ ls) (stands' : tokenize source' = read ++ ls')
    (here : ∀ d ns tags' left, Derives e.libraries (awaited blocks) tags d ns tags' →
      Stops (awaited blocks) left → ls = d.lexemes ++ left →
      Exchange Node.writeOut e.libraries (awaited blocks) tags ls ls')
    (compiled : e.compileNamed name source = .ok t) :
    ∃ t', e.compileNamed name source' = .ok t' ∧ t.SlotAlike t' := by
  obtain ⟨rfl, d, tags', lexemes, derives⟩ := compileNamed_eq_ok_iff.1 compiled
  rw [stands] at lexemes
  obtain ⟨d₁, ns₁, tags₁, left, next, onwards, stops, -⟩ := arrives.heads_isPrefix derives lexemes
  obtain ⟨d', ns', lexemes', derives', alike⟩ := arrives.exchange compares_writeOut outside derives
    lexemes (here d₁ ns₁ tags₁ left onwards stops next)
  refine ⟨⟨t.name, ns'⟩, compileNamed_eq_ok_iff.2 ⟨rfl, d', tags', ?_, derives'⟩, rfl, ?_⟩
  · rw [lexemes', stands']
  · rw [writeOutAll_eq_map, writeOutAll_eq_map, alike]

/-- A source compiles with a slot tag written out, to the same template up to such tags. -/
theorem WritesOut.compileNamed (h : e.WritesOut source source')
    (compiled : e.compileNamed name source = .ok t) :
    ∃ t', e.compileNamed name source' = .ok t' ∧ t.SlotAlike t' := by
  cases h with
  | @marker read rest heads blocks tags tags' opening closing tag slot inner content arrives outside
      opens named identifier conditions inside closes stands =>
    have endif : Tag.Writable "endif" [] := .of_all (by decide) (by decide) .nil
    obtain ⟨tag₁, token₁, -⟩ := id closes
    -- the tag behind the content gives way first, so that the one in front of it stays in place
    have behind : tokenize source = (read ++ opening :: inner.lexemes) ++ closing :: rest := by
      rw [stands, List.append_assoc, List.cons_append]
    obtain ⟨closing', rest₁, tokens₁, closes', same₁⟩ := tokenize_replace_tag endif behind token₁
    rw [List.append_assoc, List.cons_append] at tokens₁
    obtain ⟨opening', tag', shown, dividing, ls, tokens, token', name, asks, shows, divides,
      same⟩ := tokenize_replace_slotCondition identifier tokens₁ opens.token
    have opens' : (⟨opening', tag', .conditional⟩ : Head).Opens (awaited blocks) tags :=
      ⟨token', name ▸ if_not_awaited arrives outside, name ▸ conditions⟩
    have moved : SameTokens (inner.lexemes ++ closing' :: rest) ls := by
      refine Eq.trans ?_ same
      rw [List.map_append, List.map_append, List.map_cons, List.map_cons, same₁]
    exact compileNamed_of_exchange arrives outside stands tokens
      (fun d ns tags' left derives stops split =>
        .written_marker named derives stops opens inside closes opens' asks shows divides closes'
          split moved) compiled
  | output arrives outside opens named identifier stands =>
    obtain ⟨shown, rest', tokens, shows, same⟩ :=
      tokenize_replace_slotVariable identifier stands opens.token
    exact compileNamed_of_exchange arrives outside stands tokens
      (fun d ns tags' left derives stops split =>
        .written_output named derives stops opens shows split same) compiled

/-! ### Engines whose templates read conditions -/

/-- A name means the same wherever a tag of it can stand, or means nothing there. -/
structure Fixes (e : Engine) (name : String) (b? : Option Binding) : Prop where
  builtin : e.builtins.tags.get? name = b?
  libraries : ∀ l ∈ e.libraries.values, ∀ p ∈ l.tags.entries, p.1 = name → some p.2 = b?

/-- Conditions can be written in every template: the tag that opens one always does, and the one
that ends it does nothing else. -/
structure ReadsConditions (e : Engine) : Prop where
  opening : e.Fixes "if" (some .conditional)
  closing : e.Fixes "endif" none

/-- Wherever a template of such an engine can have the place of a slot, it can have a condition
around the same content. -/
theorem ReadsConditions.reads (h : e.ReadsConditions) {read : List Lexeme} {heads : List Head}
    {blocks : List OpenBlock} {tags tags' : Dict Binding} {inner : Derivation} {content : List Node}
    (arrives : Arrives e.libraries e.builtins.tags read heads blocks tags)
    (inside : Derives e.libraries ["/slot"] tags inner content tags') :
    tags.get? "if" = some .conditional ∧
      ∀ last ∈ ["/slot", "endif"], Derives e.libraries [last] tags inner content tags' := by
  have free := arrives.get?_eq h.closing.libraries h.closing.builtin
  refine ⟨arrives.get?_eq h.opening.libraries h.opening.builtin, ?_⟩
  exact List.forall_mem_cons.2
    ⟨inside, List.forall_mem_singleton.2 (inside.await h.closing.libraries free)⟩

/-- In a source that compiles, every tag of a slot can be written out that stands outside the bodies
of invocations. -/
theorem ReadsConditions.exists_writesOut (h : e.ReadsConditions) {read rest : List Lexeme}
    {heads : List Head} {blocks : List OpenBlock} {tags : Dict Binding} {head : Head}
    {slot : String} (arrives : Arrives e.libraries e.builtins.tags read heads blocks tags)
    (outside : ∀ block ∈ blocks, ∀ c, block.head.binding ≠ .block c)
    (opens : head.Opens (awaited blocks) tags)
    (place : head.binding = .slot ∨ head.binding = .slotOutput)
    (named : head.tag.slotName = .ok slot) (identifier : isIdentifier slot = true)
    (stands : tokenize source = read ++ head.lexeme :: rest)
    (compiled : e.compileNamed name source = .ok t) : ∃ source', e.WritesOut source source' := by
  obtain ⟨lexeme, tag, b⟩ := head
  obtain rfl | rfl := place
  · obtain ⟨-, d, tags', lexemes, derives⟩ := compileNamed_eq_ok_iff.1 compiled
    rw [stands] at lexemes
    obtain ⟨d', ns, tags'', left, next, onwards, stops, -⟩ :=
      arrives.heads_isPrefix derives lexemes
    obtain ⟨inner, closing, d'', content, node, ns', between, rfl, rfl, inside, closes, -, -, rfl⟩ |
      ⟨_, _, _, _, _, _, _, _, _, _, _, _, divided, -⟩ := onwards.block_inv opens rfl next stops
    case inr => cases divided
    obtain ⟨conditions, inside⟩ := h.reads arrives inside
    exact ⟨_, .marker arrives outside opens named identifier conditions inside closes stands⟩
  · exact ⟨_, .output arrives outside opens named identifier stands⟩

end Engine

end SlotTemplate
