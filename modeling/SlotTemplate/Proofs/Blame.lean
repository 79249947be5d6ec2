import SlotTemplate.Component.Stock
import SlotTemplate.Engine
import SlotTemplate.Proofs.Argument.Blame
import SlotTemplate.Proofs.Derivation.Failing
import SlotTemplate.Proofs.Markup.Places

/-!
# Errors point at what they blame

* `Faulty.wrong`: what is wrong behind a place is wrong with one of the tags and variables;
* `Engine.compile_error_blames`: so does every error of a source, and errors of open and of unknown
  tags say what was open and what was awaited.
-/

namespace SlotTemplate

open Markup Grammar

/-- An error lies in a lexeme and names its line. -/
structure Markup.Lexeme.Blamed (l : Lexeme) (err : CompileError) : Prop where
  marked : ¬ l.IsText
  span : err.span.Within l.span.start l.span.stop
  line : err.line = l.line

namespace Markup

namespace Lexeme.Exact

variable {source : List Char} {l : Lexeme} {tag : Tag}

theorem marked_of_block (token : l.token = .block tag) : ¬ l.IsText := by
  rintro ⟨s, text⟩
  cases token.symm.trans text

/-- An error of a whole tag lies in its lexeme. -/
theorem blamed (exact : l.Exact source) (token : l.token = .block tag) {err : CompileError}
    (span : err.span = tag.span) (line : err.line = tag.line) : l.Blamed err := by
  obtain ⟨-, place, number, -⟩ := exact.block token
  refine ⟨marked_of_block token, ?_, line.trans number⟩
  rw [span, place]
  exact ⟨Nat.le_refl _, Nat.le_of_lt exact.nonempty, Nat.le_refl _⟩

/-- An error of the arguments of a tag lies in its lexeme. -/
theorem blamed_of_tagSite (exact : l.Exact source) (token : l.token = .block tag) {e : TagError}
    (blames : (tagSite tag).Blames e) : l.Blamed (.tag e) := by
  obtain ⟨encloses, place, number, written⟩ := exact.block token
  obtain ⟨left, right⟩ := encloses.inside
  have size := congrArg Text.byteSize written.contents
  rw [Text.byteSize_append] at size
  obtain ⟨starts, ordered, stops⟩ := blames.span
  simp only [tagSite, Tag.argsOffset] at starts stops
  refine ⟨marked_of_block token, ⟨?_, ordered, ?_⟩, blames.line.trans number⟩
  · simp only [CompileError.span]
    omega
  · simp only [CompileError.span]
    omega

/-- An error of a variable lies in its lexeme. -/
theorem blamed_of_variable (exact : l.Exact source) {contents : String} {offset : Nat}
    (token : l.token = .variable contents offset) {e : TagError}
    (invalid : Expr.ofVariable contents offset l.line = .error e) : l.Blamed (.tag e) := by
  have encloses := exact.token
  rw [token] at encloses
  obtain ⟨left, right⟩ := encloses.inside
  have judged := Expr.ofVariable_judged encloses.ink offset l.line
  rw [invalid] at judged
  obtain ⟨starts, ordered, stops⟩ := judged.span
  simp only at starts stops
  refine ⟨?_, ⟨?_, ordered, ?_⟩, judged.line⟩
  · rintro ⟨s, text⟩
    cases token.symm.trans text
  · simp only [CompileError.span]
    omega
  · simp only [CompileError.span]
    omega

end Lexeme.Exact

end Markup

namespace Binding

/-- What a tag itself has to say is wrong at the tag. -/
theorem blamed_of_header {source : List Char} {l : Lexeme} {tag : Tag} {b : Binding} {e : TagError}
    (exact : l.Exact source) (token : l.token = .block tag) (h : b.header tag = .error e) :
    l.Blamed (.tag e) := by
  have args {α : Type} {x : Except TagError α} (judged : (tagSite tag).Judges (fun _ => True) x)
      (failed : x = .error e) : l.Blamed (.tag e) := by
    rw [failed] at judged
    exact exact.blamed_of_tagSite token judged
  have slot (failed : tag.slotName = .error e) : l.Blamed (.tag e) := by
    unfold Tag.slotName at failed
    split at failed <;> cases failed
    exact exact.blamed token rfl rfl
  have ink := exact.args_ink token
  cases b with
  | conditional => exact args (Tag.condition_judged ink) (map_eq_error_iff.1 h)
  | loop => exact args (Tag.loopHeader_judged ink) (map_eq_error_iff.1 h)
  | load =>
    rw [header] at h
    split at h <;> cases h
    exact exact.blamed token rfl rfl
  | slot | slotOutput => exact slot (map_eq_error_iff.1 h)
  | inline | block => exact args (Tag.invocationArguments_judged ink) (map_eq_error_iff.1 h)
  | plain => cases h

end Binding

/-! ## Slots -/

/-- A marker stands where one of the given tags stands. -/
def Node.MarkedBy (heads : List Head) (node : Node) : Prop :=
  ∀ name content span line, node = .marker name content span line →
    ∃ head ∈ heads, head.tag.span = span ∧ head.tag.line = line

theorem Node.markedBy_headOnly (heads : List Head) : HeadOnly (MarkedBy heads) where
  conditional _ _ _ := by simp [MarkedBy]
  loop _ _ _ := by simp [MarkedBy]
  marker _ h := by
    rintro _ _ _ _ ⟨⟩
    exact h _ _ _ _ rfl

/-- Every marker of a tree stands where a tag of its derivation stands. -/
theorem Derives.markedBy {libraries : Dict Library} {ends : List String}
    {tags tags' : Dict Binding} {d : Derivation} {ns : List Node}
    (h : Derives libraries ends tags d ns tags') :
    ∀ n ∈ ns, n.Everywhere (Node.MarkedBy d.heads) := by
  refine h.everywhere (Node.markedBy_headOnly _) (by simp [Node.MarkedBy])
    (by simp [Node.MarkedBy]) (by simp [Node.MarkedBy]) ?_
  intro head hh first second node builds
  generalize hb : head.binding = b at builds
  generalize ht : head.tag = tag at builds
  cases builds with
  | slot =>
    rintro _ _ _ _ ⟨⟩
    exact ⟨head, hh, by rw [ht], by rw [ht]⟩
  | conditional | loop | slotOutput | inline | block => simp [Node.MarkedBy]
  | @plain output => cases output <;> simp [Node.MarkedBy]

/-- A body with a repeated slot is rejected for one of the tags in it. -/
theorem Derives.head_of_repeated {libraries : Dict Library} {ends : List String}
    {tags tags' : Dict Binding} {d : Derivation} {ns : List Node}
    (h : Derives libraries ends tags d ns tags') {tag : Tag} {e : TagError}
    (repeated : partitionSlots tag ns = .error e) :
    ∃ head ∈ d.heads, e.span = head.tag.span ∧ e.line = head.tag.line := by
  obtain ⟨m, hm, rfl⟩ := partitionSlots_eq_error repeated
  rw [extractAll_eq] at hm
  obtain ⟨n, hn, hm⟩ := List.mem_flatMap.1 hm
  obtain ⟨content, marked⟩ :=
    marker_of_mem_extract (everywhere_spliceDefault h.markedBy n hn) m hm
  obtain ⟨head, hh, span, line⟩ := marked _ _ _ _ rfl
  exact ⟨head, hh, span.symm, line.symm⟩

/-! ## Sources -/

/-- What is wrong with a lexeme: a whole tag, at its place, or what stands in the lexeme. -/
inductive Markup.Lexeme.Wrong (l : Lexeme) : CompileError → Prop where
  | tag {tag : Tag} {err : CompileError} (token : l.token = .block tag)
      (span : err.span = tag.span) (line : err.line = tag.line) : Wrong l err
  | header {tag : Tag} {b : Binding} {e : TagError} (token : l.token = .block tag)
      (invalid : b.header tag = .error e) : Wrong l (.tag e)
  | output {contents : String} {offset : Nat} {e : TagError}
      (token : l.token = .variable contents offset)
      (invalid : Expr.ofVariable contents offset l.line = .error e) : Wrong l (.tag e)

theorem Markup.Lexeme.Wrong.blamed {source : List Char} {l : Lexeme} {err : CompileError}
    (h : l.Wrong err) (exact : l.Exact source) : l.Blamed err := by
  cases h with
  | tag token span line => exact exact.blamed token span line
  | header token invalid => exact Binding.blamed_of_header exact token invalid
  | output token invalid => exact exact.blamed_of_variable token invalid

/-- What is wrong with the lexemes of a source is wrong with one of them. -/
theorem Faulty.wrong {libraries : Dict Library} {builtins : Dict Binding} {lexemes : List Lexeme}
    {err : CompileError} (h : Faulty libraries builtins lexemes err) :
    ∃ l ∈ lexemes, l.Wrong err := by
  obtain ⟨read, rest, heads, blocks, tags, rfl, arrives, fault⟩ := h
  have first {lexeme : Lexeme} {more : List Lexeme} : lexeme ∈ read ++ lexeme :: more :=
    List.mem_append_right _ List.mem_cons_self
  cases fault with
  | @unclosed block outer innermost =>
    have opener := arrives.head_mem block (by simp [innermost])
    have here : block.head.lexeme ∈ read ++ [] :=
      List.mem_append_left _ (arrives.heads_sublist.1.subset (List.mem_map_of_mem opener))
    exact ⟨_, here, .tag (arrives.heads_sublist.2 _ opener) rfl rfl⟩
  | unknown token => exact ⟨_, first, .tag token rfl rfl⟩
  | output token invalid => exact ⟨_, first, .output token invalid⟩
  | header opens invalid => exact ⟨_, first, .header opens.token invalid⟩
  | library opens => exact ⟨_, first, .tag opens.token rfl rfl⟩
  | @slots head c body ns tags' closing rest e opens block header content closes repeated =>
    obtain ⟨marker, inside, span, line⟩ := content.head_of_repeated repeated
    obtain ⟨sublist, tokens⟩ := content.heads_sublist
    have here : marker.lexeme ∈ read ++ head.lexeme :: (body.lexemes ++ closing :: rest) := by
      have := sublist.subset (List.mem_map_of_mem inside)
      simp [this]
    exact ⟨_, here, .tag (tokens _ inside) span line⟩

/-- What is wrong with the lexemes of a source lies in one of them. -/
theorem Faulty.blamed {libraries : Dict Library} {builtins : Dict Binding} {source : String}
    {err : CompileError} (h : Faulty libraries builtins (tokenize source) err) :
    ∃ l ∈ tokenize source, l.Blamed err := by
  obtain ⟨l, mem, wrong⟩ := h.wrong
  exact ⟨l, mem, wrong.blamed (tokenize_exact source l mem)⟩

/-- Every error of a source points into a tag or a variable and names the line where it opens. A
block that is left open is the innermost one, and its tag is blamed with all that it waits for; an
unknown tag is blamed with all that is awaited where it stands. -/
theorem Engine.compile_error_blames {e : Engine} {name source : String} {err : CompileError}
    (h : e.compileNamed name source = .error err) :
    (∃ l ∈ tokenize source, l.Blamed err ∧
      l.line = 1 + Text.newlines (Text.takeBytes l.span.start source.toList)) ∧
    (∀ name span line expected, err = .unclosedTag name span line expected →
      ∃ heads block outer tags,
        Arrives e.libraries e.builtins.tags (tokenize source) heads (block :: outer) tags ∧
        err = .unclosedTag block.head.tag.name block.head.tag.span block.head.tag.line block.ends) ∧
    ∀ name span line expected, err = .unknownTag name span line expected →
      ∃ read lexeme tag rest heads blocks tags, tokenize source = read ++ lexeme :: rest ∧
        Arrives e.libraries e.builtins.tags read heads blocks tags ∧ lexeme.token = .block tag ∧
        tag.name ∉ awaited blocks ∧ tags.get? tag.name = none ∧
        err = .unknownTag tag.name tag.span tag.line (awaited blocks) := by
  have faulty := Parser.parse_eq_error_iff.1 (map_eq_error_iff.1 h)
  refine ⟨?_, ?_, ?_⟩
  · obtain ⟨l, hl, blamed⟩ := faulty.blamed
    exact ⟨l, hl, blamed, (tokenize_exact source l hl).line⟩
  · rintro name span line expected rfl
    obtain ⟨read, rest, heads, blocks, tags, split, arrives, fault⟩ := faulty
    cases fault with
    | @unclosed block outer innermost =>
      rw [List.append_nil] at split
      rw [split]
      exact ⟨heads, block, outer, tags, innermost ▸ arrives, rfl⟩
  · rintro name span line expected rfl
    obtain ⟨read, rest, heads, blocks, tags, split, arrives, fault⟩ := faulty
    cases fault with
    | unknown token free unbound =>
      exact ⟨read, _, _, _, heads, blocks, tags, split, arrives, token, free, unbound, rfl⟩

theorem Engine.compile_error_blames_inner_block :
    let e := Engine.default.addBuiltins (Library.empty.component (Component.named "card"))
    let source := "{% card x=1 %}\n{% for y in x %}\n{% bogus %}{% /card %}"
    let err := .unknownTag "bogus" ⟨32, 43⟩ 3 ["empty", "endfor"]
    e.compileNamed "page" source = .error err ∧
      (∃ l ∈ tokenize source, l.Blamed err ∧
        l.line = 1 + Text.newlines (Text.takeBytes l.span.start source.toList)) ∧
      ∃ read lexeme tag rest heads blocks tags, tokenize source = read ++ lexeme :: rest ∧
        Arrives e.libraries e.builtins.tags read heads blocks tags ∧ lexeme.token = .block tag ∧
        tag.name ∉ awaited blocks ∧ tags.get? tag.name = none ∧
        err = .unknownTag tag.name tag.span tag.line (awaited blocks) := by
  intro e source err
  have failed : e.compileNamed "page" source = .error err := by decide +kernel
  have blames := Engine.compile_error_blames failed
  exact ⟨failed, blames.1, blames.2.2 _ _ _ _ rfl⟩

end SlotTemplate
