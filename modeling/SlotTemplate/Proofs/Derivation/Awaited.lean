import SlotTemplate.Engine
import SlotTemplate.Proofs.Derivation.SlotTags

/-!
# Tags that end a part of a block

A tag that is awaited where a parser comes to it ends the innermost open block or divides it. It
does so by its name, and what else is written in it says nothing.

* `Arrives.inside`: a parser in a block stands behind nodes of its first or of its second part;
* `Exchange.first_closing`, `Exchange.second_closing`: another tag of the same name in place of one
  that is awaited;
* `Engine.awaited_words`: a source compiles with any words behind the name of such a tag if it
  compiles with others, and to the same nodes.
-/

namespace SlotTemplate

open Markup

/-! ## Inside a block -/

/-- A parser inside a block has read nodes of its first part, or the first part, the tag that
divides the block and nodes of its second part. -/
inductive Inside (libraries : Dict Library) (builtins : Dict Binding) (block : OpenBlock)
    (outer : List OpenBlock) : List Lexeme → Dict Binding → Prop where
  | first {read : List Lexeme} {heads : List Head} {tags tags' : Dict Binding}
      {middle? : Option String} {last : String} {d : Derivation} {ns : List Node}
      (before : Arrives libraries builtins read heads outer tags)
      (opens : block.head.Opens (awaited outer) tags)
      (form : block.head.binding.form = .block middle? last)
      (ends : block.ends = middle?.toList ++ [last])
      (content : Derives libraries (middle?.toList ++ [last]) tags d ns tags') :
      Inside libraries builtins block outer (read ++ block.head.lexeme :: d.lexemes) tags'
  | second {read : List Lexeme} {heads : List Head} {tags tags₁ tags' : Dict Binding}
      {middle last : String} {first d : Derivation} {left ns : List Node} {dividing : Lexeme}
      (before : Arrives libraries builtins read heads outer tags)
      (opens : block.head.Opens (awaited outer) tags)
      (form : block.head.binding.form = .block (some middle) last) (ends : block.ends = [last])
      (start : Derives libraries [middle, last] tags first left tags₁)
      (divides : dividing.Named middle) (content : Derives libraries [last] tags₁ d ns tags') :
      Inside libraries builtins block outer
        (read ++ block.head.lexeme :: (first.lexemes ++ dividing :: d.lexemes)) tags'

section

variable {libraries : Dict Library} {builtins tags : Dict Binding} {read : List Lexeme}
  {heads : List Head} {block : OpenBlock} {outer : List OpenBlock}

theorem Arrives.inside (h : Arrives libraries builtins read heads (block :: outer) tags) :
    Inside libraries builtins block outer read tags := by
  generalize opened : block :: outer = blocks at h
  induction h with
  | start => cases opened
  | nodes _ derives ih =>
    subst opened
    cases ih rfl with
    | first before opens form ends content =>
      rw [List.append_assoc, List.cons_append, ← Derivation.lexemes_append]
      rw [awaited, ends] at derives
      exact .first before opens form ends (content.append derives)
    | second before opens form ends start divides content =>
      rw [List.append_assoc, List.cons_append, List.append_assoc, List.cons_append,
        ← Derivation.lexemes_append]
      rw [awaited, ends] at derives
      exact .second before opens form ends start divides (content.append derives)
  | opens before opens form =>
    obtain ⟨rfl, rfl⟩ := List.cons.inj opened
    exact .first before opens form rfl .nil
  | divides before opens form _ first named =>
    obtain ⟨rfl, rfl⟩ := List.cons.inj opened
    exact .second before opens form rfl first named .nil

end

/-! ## Another tag in place of an awaited one -/

section

variable {f : Node → Node} {P : Binding → Prop} {libraries : Dict Library} {ends : List String}
  {tags tags₁ tags' : Dict Binding} {head : Head} {last name : String} {inner d : Derivation}
  {body ns : List Node} {closing closing' : Lexeme} {rest rest' left : List Lexeme}

/-- What stands behind an awaited tag stands for nodes with the same image at other places. -/
theorem Compares.restate_left (compares : Compares f P)
    (derives : Derives libraries ends tags d ns tags')
    (same : SameTokens (d.lexemes ++ left) rest') :
    ∃ d' ns' left', rest' = d'.lexemes ++ left' ∧ Derives libraries ends tags d' ns' tags' ∧
      ns.map f = ns'.map f ∧ SameTokens left left' := by
  obtain ⟨_, left', rfl, there, behind⟩ := same.append_inv
  obtain ⟨d', ns', rfl, derives', alike⟩ := compares.restate derives there
  exact ⟨d', ns', left', rfl, derives', alike, behind⟩

variable (compares : Compares f P) (inPlay : P head.binding) (opens : head.Opens ends tags)
  (derives : Derives libraries ends tags d ns tags') (stops : Stops ends left)
  (closes : closing.Named name) (closes' : closing'.Named name) (same : SameTokens rest rest')

include compares inPlay opens derives stops closes closes' same

/-- Another tag of the same name ends or divides a block behind its first nodes. -/
theorem Exchange.first_closing {middle? : Option String}
    (form : head.binding.form = .block middle? last)
    (content : Derives libraries (middle?.toList ++ [last]) tags inner body tags₁)
    (awaits : name ∈ middle?.toList ++ [last])
    (split : head.lexeme :: (inner.lexemes ++ closing :: rest) = d.lexemes ++ left) :
    Exchange f libraries ends tags (head.lexeme :: (inner.lexemes ++ closing :: rest))
      (head.lexeme :: (inner.lexemes ++ closing' :: rest')) := by
  obtain ⟨inner₁, closing₁, d₁, body₁, node, ns₁, tags₂, rfl, rfl, content₁, ended, builds, more,
      next⟩ |
    ⟨middle, first, dividing, second, closing₁, d₁, left₁, right, node, ns₁, tags₂, tags₃, rfl, rfl,
      rfl, content₁, divided, content₂, ended, builds, more, next⟩ :=
    derives.block_inv opens form split stops
  · obtain ⟨rfl, rfl, rfl, e⟩ :=
      content.unique content₁ next (.tag closes awaits) (.tag ended (by simp))
    obtain ⟨rfl, rfl⟩ := List.cons.inj e
    obtain rfl := Derives.named_eq closes ended
    obtain ⟨d', ns', left', rfl, more', alike, behind⟩ := compares.restate_left more same
    obtain ⟨node', builds', image⟩ := compares.rebuild inPlay builds rfl rfl
    refine ⟨_, _, .block head inner closing' d', node' :: ns', tags', left, left', split, ?_,
      derives, .block opens form content closes' builds' more', ?_, stops, behind⟩
    · simp [Derivation.lexemes]
    · rw [List.map_cons, List.map_cons, alike, image]
  · obtain ⟨rfl, rfl, rfl, e⟩ :=
      content.unique content₁ next (.tag closes awaits) (.tag divided (by simp))
    obtain ⟨rfl, rfl⟩ := List.cons.inj e
    obtain rfl := Derives.named_eq closes divided
    obtain ⟨second', right', _, rfl, content₂', alikeRight, same₁⟩ :=
      compares.restate_left content₂ same
    obtain ⟨closing₁', d', ns', left', rfl, ended', more', alike, behind⟩ :=
      compares.restate_behind more ended same₁
    obtain ⟨node', builds', image⟩ := compares.rebuild inPlay builds rfl alikeRight
    refine ⟨_, _, .divided head inner closing' second' closing₁' d', node' :: ns', tags', left,
      left', split, ?_, derives,
      .divided opens form content closes' content₂' ended' builds' more', ?_, stops, behind⟩
    · simp [Derivation.lexemes]
    · rw [List.map_cons, List.map_cons, alike, image]

/-- Another tag of the same name ends a block behind nodes of its second part. -/
theorem Exchange.second_closing {middle : String} {first : Derivation} {before : List Node}
    {dividing : Lexeme} {tags₂ : Dict Binding}
    (form : head.binding.form = .block (some middle) last)
    (start : Derives libraries [middle, last] tags first before tags₂)
    (divides : dividing.Named middle) (content : Derives libraries [last] tags₂ inner body tags₁)
    (awaits : name ∈ [last])
    (split : head.lexeme :: (first.lexemes ++ dividing :: (inner.lexemes ++ closing :: rest)) =
      d.lexemes ++ left) :
    Exchange f libraries ends tags
      (head.lexeme :: (first.lexemes ++ dividing :: (inner.lexemes ++ closing :: rest)))
      (head.lexeme :: (first.lexemes ++ dividing :: (inner.lexemes ++ closing' :: rest'))) := by
  obtain ⟨second, closing₁, d₁, right, node, ns₁, tags₃, rfl, rfl, content₁, ended, builds, more,
    next⟩ := derives.divided_inv opens form split stops start divides
  obtain ⟨rfl, rfl, rfl, e⟩ :=
    content.unique content₁ next (.tag closes awaits) (.tag ended (by simp))
  obtain ⟨rfl, rfl⟩ := List.cons.inj e
  obtain rfl := Derives.named_eq closes ended
  obtain ⟨d', ns', left', rfl, more', alike, behind⟩ := compares.restate_left more same
  obtain ⟨node', builds', image⟩ := compares.rebuild inPlay builds rfl rfl
  refine ⟨_, _, .divided head first dividing inner closing' d', node' :: ns', tags', left, left',
    split, ?_, derives, .divided opens form start divides content closes' builds' more', ?_, stops,
    behind⟩
  · simp [Derivation.lexemes]
  · rw [List.map_cons, List.map_cons, alike, image]

end

/-- In a source that has a derivation, another tag of the same name can stand in place of one that
is awaited where a parser comes to it. -/
theorem Arrives.reword {f : Node → Node} {P : Binding → Prop} {libraries : Dict Library}
    {builtins tags tags' : Dict Binding} {read rest rest' : List Lexeme} {heads : List Head}
    {blocks : List OpenBlock} {name : String} {closing closing' : Lexeme} {d : Derivation}
    {ns : List Node} (h : Arrives libraries builtins read heads blocks tags)
    (compares : Compares f P) (inPlay : ∀ block ∈ blocks, P block.head.binding)
    (awaits : name ∈ awaited blocks) (closes : closing.Named name) (closes' : closing'.Named name)
    (whole : Derives libraries [] builtins d ns tags') (split : d.lexemes = read ++ closing :: rest)
    (same : SameTokens rest rest') :
    ∃ d' ns', d'.lexemes = read ++ closing' :: rest' ∧
      Derives libraries [] builtins d' ns' tags' ∧ ns.map f = ns'.map f := by
  cases blocks with
  | nil => cases awaits
  | cons block outer =>
    obtain ⟨this, others⟩ := List.forall_mem_cons.1 inPlay
    cases h.inside with
    | first before opens form ends content =>
      rw [awaited, ends] at awaits
      rw [List.append_assoc, List.cons_append] at split ⊢
      obtain ⟨_, _, _, _, next, derives, stops, -⟩ := before.heads_isPrefix whole split
      exact before.exchange compares others whole split
        (.first_closing compares this opens derives stops closes closes' same form content awaits
          next)
    | second before opens form ends start divides content =>
      rw [awaited, ends] at awaits
      rw [List.append_assoc, List.cons_append, List.append_assoc, List.cons_append] at split ⊢
      obtain ⟨_, _, _, _, next, derives, stops, -⟩ := before.heads_isPrefix whole split
      exact before.exchange compares others whole split
        (.second_closing compares this opens derives stops closes closes' same form start divides
          content awaits next)

/-! ## Words behind a name -/

/-- Behind the tag that opens a block and a text, the block is open. -/
theorem Arrives.opens_text {libraries : Dict Library} {tags : Dict Binding} {head : Head}
    {middle? : Option String} {last s : String} {text : Lexeme} (opens : head.Opens [] tags)
    (form : head.binding.form = .block middle? last)
    (header : head.binding.header head.tag = .ok ()) (token : text.token = .text s) :
    Arrives libraries tags [head.lexeme, text] [head] [⟨head, middle?.toList ++ [last]⟩] tags := by
  have inside : Arrives libraries tags [head.lexeme] [head] _ tags :=
    .opens .start opens form header
  exact .nodes inside (.text token .nil)

/-- A name with words behind it that a tag can have: the name has no blank, the words stand behind a
blank, and the tag that they are written in ends behind them. -/
structure Tag.IsWording (name args : String) : Prop where
  nonempty : name.toList ≠ []
  ink : ∀ c ∈ name.toList, Text.isBlank c = false
  behind : ∀ c ∈ args.toList.head?, Text.isBlank c = true
  last : ∀ c ∈ args.toList.getLast?, Text.isBlank c = false
  unclosed : ¬ ['%', '}'] <:+: name.toList ++ args.toList

theorem Tag.IsWording.isName {name args : String} (h : IsWording name args) : IsName name :=
  .of_unclosed h.nonempty h.ink fun inside =>
    h.unclosed (inside.trans (List.prefix_append _ _).isInfix)

theorem Tag.IsWording.of_all {name args : String} (nonempty : name.toList ≠ [])
    (ink : name.toList.all fun c => !Text.isBlank c) (behind : args.toList.head?.all Text.isBlank)
    (last : args.toList.getLast?.all fun c => !Text.isBlank c)
    (unclosed : ¬ ['%', '}'] <:+: name.toList ++ args.toList) : IsWording name args :=
  ⟨nonempty, by simpa using ink, by simpa [Option.all_eq_true] using behind,
    by simpa [Option.all_eq_true] using last, unclosed⟩

/-- A source with a tag of that name and words in place of a tag. -/
theorem Markup.tokenize_wording {source : String} {read rest : List Lexeme} {l : Lexeme} {tag : Tag}
    {name args : String} (stands : tokenize source = read ++ l :: rest)
    (token : l.token = .block tag) (wording : Tag.IsWording name args) :
    ∃ l' tag' rest', tokenize (replace source l.span (Tag.written name args)) =
        read ++ l' :: rest' ∧
      l'.token = .block tag' ∧ tag'.name = name ∧ tag'.args = args ∧ SameTokens rest rest' := by
  let body : List Char := ' ' :: (name.toList ++ args.toList ++ [' '])
  have closed : Body Delimiter.block.guard body :=
    .char (by decide) (.of_unclosed (by decide) (by decide) wording.unclosed)
  have written :
      (Tag.written name args).toList = [Piece.markup .block body].flatMap Piece.source := by
    rw [Tag.written_toList, List.flatMap_singleton]
  obtain ⟨pos, line, rest', tokens, same⟩ :=
    tokenize_replace stands token (List.forall_mem_singleton.2 ⟨_, _, rfl, closed⟩) written
  obtain ⟨l', tag', pos', line', placed, token', contents⟩ := place_block body pos line []
  rw [wording.isName.trim wording.last] at contents
  have spells : tag'.Spells name args.toList :=
    ⟨contents, wording.nonempty, wording.ink, wording.behind⟩
  rw [placed] at tokens
  exact ⟨l', tag', rest', tokens, token', spells.name_eq,
    by rw [spells.args_eq, String.ofList_toList], same⟩

/-- Without places, the nodes of a block go by the nodes of its parts. -/
theorem compares_relocate : Compares (Node.relocate .erased) fun _ => True where
  restate derives same := derives.restate_forms restates_relocate (by rwa [List.map_id])
  rebuild _ builds one two := builds.restate_forms restates_relocate.toSameForms rfl one two

namespace Engine

variable {e : Engine} {source : String} {read rest : List Lexeme} {l : Lexeme} {tag : Tag}
  {args : String} {heads : List Head} {blocks : List OpenBlock} {tags : Dict Binding}

/-- A source that compiles does so with another awaited tag of the same name, to the same nodes but
for their places. -/
theorem compileNamed_reword {other name closing : String} {rest' : List Lexeme} {l' : Lexeme}
    {t : Template} (compiled : e.compileNamed name source = .ok t)
    (stands : tokenize source = read ++ l :: rest) (stands' : tokenize other = read ++ l' :: rest')
    (arrives : Arrives e.libraries e.builtins.tags read heads blocks tags)
    (awaits : closing ∈ awaited blocks) (closes : l.Named closing) (closes' : l'.Named closing)
    (same : SameTokens rest rest') :
    ∃ t', e.compileNamed name other = .ok t' ∧
      relocateAll .erased t.nodes = relocateAll .erased t'.nodes := by
  obtain ⟨_, ns⟩ := t
  obtain ⟨rfl, d, tags', lexemes, derives⟩ := compileNamed_eq_ok_iff.1 compiled
  rw [stands] at lexemes
  obtain ⟨d', ns', lexemes', derives', alike⟩ := arrives.reword compares_relocate
    (fun _ _ => trivial) awaits closes closes' derives lexemes same
  refine ⟨⟨_, ns'⟩, compileNamed_eq_ok_iff.2 ⟨rfl, d', tags', ?_, derives'⟩, ?_⟩
  · rw [lexemes', stands']
  · rw [relocateAll_eq_map, relocateAll_eq_map, alike]

/-- What a tag has to say that is awaited where a parser comes to it is its name. With any words
behind the name, or none, a source compiles exactly if it does with those that it has, and to the
same nodes but for their places. -/
theorem awaited_words (name : String) (stands : tokenize source = read ++ l :: rest)
    (token : l.token = .block tag)
    (arrives : Arrives e.libraries e.builtins.tags read heads blocks tags)
    (awaits : tag.name ∈ awaited blocks) (wording : Tag.IsWording tag.name args) :
    let other := replace source l.span (Tag.written tag.name args)
    (∃ l' tag' rest', tokenize other = read ++ l' :: rest' ∧ l'.token = .block tag' ∧
      tag'.name = tag.name ∧ tag'.args = args) ∧
    (∀ t, e.compileNamed name source = .ok t → ∃ t', e.compileNamed name other = .ok t' ∧
      relocateAll .erased t.nodes = relocateAll .erased t'.nodes) ∧
    ∀ t', e.compileNamed name other = .ok t' → ∃ t, e.compileNamed name source = .ok t ∧
      relocateAll .erased t.nodes = relocateAll .erased t'.nodes := by
  intro other
  obtain ⟨l', tag', rest', stands', token', named, words, same⟩ :=
    tokenize_wording stands token wording
  have closes : l.Named tag.name := ⟨tag, token, rfl⟩
  have closes' : l'.Named tag.name := ⟨tag', token', named⟩
  refine ⟨⟨l', tag', rest', stands', token', named, words⟩, fun t compiled => ?_,
    fun t' compiled => ?_⟩
  · exact compileNamed_reword compiled stands stands' arrives awaits closes closes' same
  · obtain ⟨t, compiled', alike⟩ :=
      compileNamed_reword compiled stands' stands arrives awaits closes' closes same.symm
    exact ⟨t, compiled', alike.symm⟩

/-- Behind a condition and a text, `else` and `endif` are awaited. -/
theorem default_arrives_if {l text : Lexeme} {tag : Tag} {s : String} (token : l.token = .block tag)
    (named : tag.name = "if") (valid : tag.condition.isOk) (inside : text.token = .text s) :
    Arrives default.libraries default.builtins.tags [l, text] [⟨l, tag, .conditional⟩]
      [⟨⟨l, tag, .conditional⟩, ["else", "endif"]⟩] default.builtins.tags := by
  have bound : default.builtins.tags.get? tag.name = some .conditional := by
    rw [named]
    rfl
  have header : Binding.conditional.header tag = .ok () := by
    obtain ⟨c, read⟩ := exists_eq_ok valid
    rw [Binding.header, read]
    rfl
  have opens : (⟨l, tag, .conditional⟩ : Head).Opens [] default.builtins.tags :=
    ⟨token, List.not_mem_nil, bound⟩
  exact .opens_text opens rfl header inside

/-- A second condition behind `else` is not looked at. -/
theorem awaited_words_else :
    let source := "{% if x %}a{% else %}b{% endif %}"
    let other := "{% if x %}a{% else if y %}b{% endif %}"
    replace source ⟨11, 21⟩ (Tag.written "else" " if y") = other ∧
      ∃ t t', Engine.default.compileNamed unnamed source = .ok t ∧
        Engine.default.compileNamed unnamed other = .ok t' ∧
        relocateAll .erased t.nodes = relocateAll .erased t'.nodes := by
  intro source other
  let tag : Tag := ⟨"else", 14, ⟨11, 21⟩, 1⟩
  have stands : tokenize source =
      [⟨.block ⟨"if x", 3, ⟨0, 10⟩, 1⟩, ⟨0, 10⟩, 1⟩, ⟨.text "a", ⟨10, 11⟩, 1⟩] ++
      ⟨.block tag, ⟨11, 21⟩, 1⟩ ::
      [⟨.text "b", ⟨21, 22⟩, 1⟩, ⟨.block ⟨"endif", 25, ⟨22, 33⟩, 1⟩, ⟨22, 33⟩, 1⟩] := by
    decide +kernel
  have wording : Tag.IsWording tag.name " if y" := .of_all (by decide +kernel)
    (by decide +kernel) (by decide +kernel) (by decide +kernel) (by decide +kernel)
  have text : replace source ⟨11, 21⟩ (Tag.written "else" " if y") = other := by decide +kernel
  have named : Tag.name tag = "else" := by decide +kernel
  obtain ⟨-, reworded, -⟩ := awaited_words unnamed stands rfl
    (default_arrives_if rfl (by decide +kernel) (by decide +kernel) rfl) (by decide +kernel) wording
  rw [named, text] at reworded
  obtain ⟨t, compiled⟩ : ∃ t, Engine.default.compileNamed unnamed source = .ok t :=
    exists_eq_ok (by decide +kernel)
  obtain ⟨t', compiled', alike⟩ := reworded t compiled
  exact ⟨text, t, t', compiled, compiled', alike⟩

/-- Not every source is rejected that has words behind the name of an awaited tag. -/
theorem not_words_rejected :
    ¬ ∀ (e : Engine) (name source : String) (read rest : List Lexeme) (l : Lexeme) (tag : Tag)
        (heads : List Head) (blocks : List OpenBlock) (tags : Dict Binding),
      tokenize source = read ++ l :: rest → l.token = .block tag →
      Arrives e.libraries e.builtins.tags read heads blocks tags → tag.name ∈ awaited blocks →
      tag.args ≠ "" →
      ∃ err, e.compileNamed name source = .error (.tag err) ∧ err.tag = tag.name := by
  intro rejected
  let source := "{% if x %}a{% else if y %}b{% endif %}"
  let tag : Tag := ⟨"else if y", 14, ⟨11, 26⟩, 1⟩
  have stands : tokenize source =
      [⟨.block ⟨"if x", 3, ⟨0, 10⟩, 1⟩, ⟨0, 10⟩, 1⟩, ⟨.text "a", ⟨10, 11⟩, 1⟩] ++
      ⟨.block tag, ⟨11, 26⟩, 1⟩ ::
      [⟨.text "b", ⟨26, 27⟩, 1⟩, ⟨.block ⟨"endif", 30, ⟨27, 38⟩, 1⟩, ⟨27, 38⟩, 1⟩] := by
    decide +kernel
  obtain ⟨err, failed, -⟩ := rejected Engine.default unnamed source _ _ _ tag _ _ _ stands rfl
    (default_arrives_if rfl (by decide +kernel) (by decide +kernel) rfl) (by decide +kernel)
    (by decide +kernel)
  obtain ⟨t, compiled⟩ : ∃ t, Engine.default.compileNamed unnamed source = .ok t :=
    exists_eq_ok (by decide +kernel)
  rw [compiled] at failed
  cases failed

end Engine

end SlotTemplate
