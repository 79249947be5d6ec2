import SlotTemplate.Proofs.Derivation.Arrival
import SlotTemplate.Proofs.Derivation.Parsing

/-!
# Parsing fails where the grammar of blocks is left

* `compile_fails_iff`: how the compilation of one tag can fail;
* `parse_eq_error_iff`: a source is rejected exactly with what is wrong at a place that the parser
  comes to.
-/

namespace SlotTemplate.Parser

open Markup

variable {p q r : Parser} {α β : Type} {a : α} {b : β} {err : CompileError}

namespace Outcome

/-- A step ends with an error. -/
def Fails (o : Outcome p α) (err : CompileError) : Prop := o.1 = .error err

@[simp] theorem here_fails {x : Except CompileError α} :
    (here x : Outcome p α).Fails err ↔ x = .error err :=
  Iff.rfl

@[simp] theorem map_fails {o : Outcome p α} {f : α → β} : (o.map f).Fails err ↔ o.Fails err :=
  map_eq_error_iff

@[simp] theorem since_fails (h : q.pending.length ≤ p.pending.length) {o : Outcome q α} :
    (o.since h).Fails err ↔ o.Fails err :=
  Iff.rfl

@[simp] theorem leave_fails {o : Outcome p α} : o.leave.Fails err ↔ o.Fails err :=
  Iff.rfl

@[simp] theorem andThen_fails {o : Outcome p α}
    {f : α → (q : Parser) → q.pending.length ≤ p.pending.length → Outcome q β} :
    (o.andThen f).Fails err ↔
      o.Fails err ∨ ∃ a q, ∃ h : o.Gives a q, (f a q h.pending_le).Fails err := by
  obtain ⟨x, q'⟩ := o
  cases x with
  | error e => simp [Gives, Fails, andThen]
  | ok a =>
    constructor
    · intro h
      exact .inr ⟨a, q'.1, ⟨rfl, rfl⟩, h⟩
    · rintro (h | ⟨_, _, ⟨h, rfl⟩, hf⟩)
      · cases h
      · cases h
        exact hf

@[simp] theorem skipEnd_fails {o : Outcome p α} : o.skipEnd.Fails err ↔ o.Fails err := by
  rw [skipEnd, andThen_fails]
  constructor
  · rintro (h | ⟨_, _, _, h⟩)
    · exact h
    · cases h
  · exact .inl

end Outcome

open Outcome

theorem loadLibraries_error_iff {blamed : Tag} {names : List String} {e : TagError} :
    (loadLibraries blamed names p).1 = .error e ↔
      ∃ known name more tags, names = known ++ name :: more ∧
        Loads p.libraries known p.tags tags ∧ p.libraries.get? name = none ∧
        e = ⟨blamed.name, blamed.span, blamed.line, .unknownLibrary name⟩ := by
  induction names generalizing p with
  | nil => simp [loadLibraries]
  | cons name names ih =>
    cases found : p.libraries.get? name with
    | none =>
      simp only [loadLibraries, loadLibrary, found, Except.error.injEq]
      constructor
      · rintro rfl
        exact ⟨[], name, names, p.tags, rfl, .nil, found, rfl⟩
      · rintro ⟨known, name', more, tags, split, loads, -, rfl⟩
        cases loads with
        | nil =>
          cases split
          rfl
        | cons found' =>
          cases split
          cases found.symm.trans found'
    | some library =>
      simp only [loadLibraries, loadLibrary, found]
      rw [ih]
      constructor
      · rintro ⟨known, name', more, tags, rfl, loads, missing, rfl⟩
        exact ⟨name :: known, name', more, tags, rfl, .cons found loads, missing, rfl⟩
      · rintro ⟨known, name', more, tags, split, loads, missing, rfl⟩
        cases loads with
        | nil =>
          cases split
          cases found.symm.trans missing
        | cons found' rest =>
          cases split
          cases found.symm.trans found'
          exact ⟨_, name', more, tags, rfl, rest, missing, rfl⟩

/-! ## One tag -/

/-- How the compilation of a tag fails. -/
inductive Breaks (p : Parser) (b : Binding) (tag : Tag) : CompileError → Prop where
  | header {e : TagError} (invalid : b.header tag = .error e) : Breaks p b tag (.tag e)
  | library {known more : List String} {name : String} {tags : Dict Binding} (load : b = .load)
      (names : tag.words.tail = known ++ name :: more) (loads : Loads p.libraries known p.tags tags)
      (missing : p.libraries.get? name = none) :
      Breaks p b tag (.tag ⟨tag.name, tag.span, tag.line, .unknownLibrary name⟩)
  | content {middle? : Option String} {last : String} {err : CompileError}
      (form : b.form = .block middle? last) (header : b.header tag = .ok ())
      (fails : (p.parseUntil (middle?.toList ++ [last])).Fails err) : Breaks p b tag err
  | second {middle last : String} {q : Parser} {dividing : Tag} {first : List Node}
      {err : CompileError} (form : b.form = .block (some middle) last)
      (header : b.header tag = .ok ()) (content : (p.parseUntil [middle, last]).Gives first q)
      (divides : q.consumeEnd.1 = some dividing) (name : dividing.name = middle)
      (fails : (q.consumeEnd.2.parseUntil [last]).Fails err) : Breaks p b tag err
  | slots {c : Component} {body : List Node} {q : Parser} {e : TagError} (block : b = .block c)
      (header : b.header tag = .ok ()) (content : (p.parseUntil [c.closeTag]).Gives body q)
      (repeated : partitionSlots tag body = .error e) : Breaks p b tag (.tag e)

section

variable {binding : Binding} {tag : Tag}

theorem branches_fails_iff {middle last : String} :
    (p.branches (fun q _ ends => q.parseUntil ends) middle last).Fails err ↔
      (p.parseUntil [middle, last]).Fails err ∨
        ∃ first q, (p.parseUntil [middle, last]).Gives first q ∧
          q.consumeEnd.1.any (·.name == middle) = true ∧
          (q.consumeEnd.2.parseUntil [last]).Fails err := by
  rw [branches, andThen_fails]
  refine or_congr_right (exists_congr fun first => exists_congr fun q => ?_)
  rw [exists_prop]
  refine and_congr_right fun _ => ?_
  rw [since_fails]
  by_cases divided : q.consumeEnd.1.any (·.name == middle) = true
  · simp only [divided, if_true, map_fails, skipEnd_fails, true_and]
  · simp only [divided, here_fails, reduceCtorEq, if_false, false_and]

/-- A tag that is invalid in itself breaks for that reason alone. -/
theorem breaks_iff_of_header_error {e : TagError} (read : binding.header tag = .error e) :
    Breaks p binding tag err ↔ .tag e = err := by
  constructor
  · intro h
    cases h with
    | header invalid =>
      cases read.symm.trans invalid
      rfl
    | library load names =>
      subst load
      simp [Binding.header, names] at read
    | content _ header | second _ header | slots _ header => cases read.symm.trans header
  · rintro rfl
    exact .header read

/-- A tag that stands alone breaks if it is invalid in itself. -/
theorem breaks_alone_iff (form : binding.form = .alone) (load : binding ≠ .load) :
    Breaks p binding tag err ↔ ∃ e, binding.header tag = .error e ∧ .tag e = err := by
  constructor
  · intro h
    cases h with
    | header invalid => exact ⟨_, invalid, rfl⟩
    | library load' => exact absurd load' load
    | content form' | second form' => cases form.symm.trans form'
    | slots block =>
      rw [block] at form
      cases form
  · rintro ⟨e, invalid, rfl⟩
    exact .header invalid

theorem breaks_load_iff (read : Binding.load.header tag = .ok ()) :
    Breaks p .load tag err ↔
      ∃ e, (loadLibraries tag tag.words.tail p).1 = .error e ∧ .tag e = err := by
  constructor
  · intro h
    cases h with
    | header invalid => cases read.symm.trans invalid
    | library _ split loads missing =>
      exact ⟨_, loadLibraries_error_iff.2 ⟨_, _, _, _, split, loads, missing, rfl⟩, rfl⟩
    | content form | second form => cases form
    | slots block => cases block
  · rintro ⟨e, h, rfl⟩
    obtain ⟨known, name, more, tags, split, loads, missing, rfl⟩ := loadLibraries_error_iff.1 h
    exact .library rfl split loads missing

theorem breaks_slot_iff (read : Binding.slot.header tag = .ok ()) :
    Breaks p .slot tag err ↔ (p.parseUntil ["/slot"]).Fails err := by
  constructor
  · intro h
    cases h with
    | header invalid => cases read.symm.trans invalid
    | content form _ fails =>
      cases form
      exact fails
    | second form => cases form
    | library load => cases load
    | slots block => cases block
  · exact .content rfl read

theorem breaks_block_iff {c : Component} (read : (Binding.block c).header tag = .ok ()) :
    Breaks p (.block c) tag err ↔ (p.parseUntil [c.closeTag]).Fails err ∨
      ∃ body q e, (p.parseUntil [c.closeTag]).Gives body q ∧
        partitionSlots tag body = .error e ∧ .tag e = err := by
  constructor
  · intro h
    cases h with
    | header invalid => cases read.symm.trans invalid
    | content form _ fails =>
      cases form
      exact .inl fails
    | second form => cases form
    | library load => cases load
    | slots block _ content repeated =>
      cases block
      exact .inr ⟨_, _, _, content, repeated, rfl⟩
  · rintro (fails | ⟨body, q, e, content, repeated, rfl⟩)
    · exact .content rfl read fails
    · exact .slots rfl read content repeated

theorem breaks_branches_iff {middle last : String}
    (form : binding.form = .block (some middle) last) (read : binding.header tag = .ok ()) :
    Breaks p binding tag err ↔ (p.parseUntil [middle, last]).Fails err ∨
      ∃ first q, (p.parseUntil [middle, last]).Gives first q ∧
        q.consumeEnd.1.any (·.name == middle) = true ∧
        (q.consumeEnd.2.parseUntil [last]).Fails err := by
  constructor
  · intro h
    cases h with
    | header invalid => cases read.symm.trans invalid
    | library load =>
      subst load
      cases form
    | content form' _ fails =>
      cases form.symm.trans form'
      exact .inl fails
    | second form' _ content divides name fails =>
      cases form.symm.trans form'
      exact .inr ⟨_, _, content, any_name_eq_true.2 ⟨_, divides, name⟩, fails⟩
    | slots block =>
      subst block
      cases form
  · rintro (fails | ⟨first, q, content, divided, fails⟩)
    · exact .content form read fails
    · obtain ⟨dividing, divides, name⟩ := any_name_eq_true.1 divided
      exact .second form read content divides name fails

/-- Blocks that a second tag may divide. -/
theorem compile_branches_fails_iff {γ : Type} {middle last : String} (header : Except TagError γ)
    (make : γ → List Node → List Node → Node) (form : binding.form = .block (some middle) last)
    (step : p.compileHere binding tag = match header with
      | .error e => .here (.error (.tag e))
      | .ok c => (p.branches (fun q _ ends => q.parseUntil ends) middle last).map
          fun (first, second) => make c first second)
    (read : binding.header tag = header.map fun _ => ()) :
    (p.compileHere binding tag).Fails err ↔ Breaks p binding tag err := by
  rw [step]
  cases header with
  | error e => rw [breaks_iff_of_header_error read, here_fails, Except.error.injEq]
  | ok c => rw [breaks_branches_iff form read, map_fails, branches_fails_iff]

/-- Tags that stand alone. -/
theorem compile_single_fails_iff (result : Except TagError Node) (form : binding.form = .alone)
    (load : binding ≠ .load) (read : binding.header tag = result.map fun _ => ())
    (step : p.compileHere binding tag = .here (result.mapError .tag)) :
    (p.compileHere binding tag).Fails err ↔ Breaks p binding tag err := by
  simp only [step, here_fails, mapError_eq_error_iff, breaks_alone_iff form load, read,
    map_eq_error_iff]

theorem compile_load_fails_iff : (p.compileHere .load tag).Fails err ↔ Breaks p .load tag err := by
  cases words : tag.words.tail with
  | nil =>
    have read : Binding.load.header tag =
        .error ⟨tag.name, tag.span, tag.line, .noLibraryNamed⟩ := by simp [Binding.header, words]
    rw [breaks_iff_of_header_error read]
    simp only [compileHere, compile, load, words, here_fails, Except.error.injEq]
  | cons name names =>
    rw [breaks_load_iff (by simp [Binding.header, words])]
    simp only [compileHere, compile, load, words, Fails, map_eq_error_iff, mapError_eq_error_iff]

theorem compile_slot_fails_iff : (p.compileHere .slot tag).Fails err ↔ Breaks p .slot tag err := by
  have read : Binding.slot.header tag = tag.slotName.map fun _ => () := rfl
  cases name : tag.slotName with
  | error e =>
    rw [name] at read
    rw [breaks_iff_of_header_error read]
    simp only [compileHere, compile, name, here_fails, Except.error.injEq]
  | ok name' =>
    rw [name] at read
    rw [breaks_slot_iff read]
    simp only [compileHere, compile, name, skipEnd_fails, map_fails]

theorem compile_block_fails_iff {c : Component} :
    (p.compileHere (.block c) tag).Fails err ↔ Breaks p (.block c) tag err := by
  have read : (Binding.block c).header tag = tag.invocationArguments.map fun _ => () := rfl
  cases args : tag.invocationArguments with
  | error e =>
    rw [args] at read
    rw [breaks_iff_of_header_error read]
    simp only [compileHere, compile, args, here_fails, Except.error.injEq]
  | ok as =>
    rw [args] at read
    rw [breaks_block_iff read]
    simp only [compileHere, compile, args, andThen_fails, skipEnd_fails, skipEnd_gives,
      here_fails, mapError_eq_error_iff, map_eq_error_iff]
    refine or_congr_right ⟨?_, ?_⟩
    · rintro ⟨body, _, ⟨q, content, rfl⟩, e, repeated, rfl⟩
      exact ⟨body, q, e, content, repeated, rfl⟩
    · rintro ⟨body, q, e, content, repeated, rfl⟩
      exact ⟨body, _, ⟨q, content, rfl⟩, e, repeated, rfl⟩

/-- Compiling a tag fails in the ways that its form allows. -/
theorem compile_fails_iff :
    (p.compileHere binding tag).Fails err ↔ Breaks p binding tag err := by
  cases binding with
  | conditional =>
    refine compile_branches_fails_iff tag.condition
      (fun c first second => .conditional c.negated c.expr first second) rfl ?_ rfl
    rw [compileHere, compile]
    cases tag.condition <;> rfl
  | loop =>
    refine compile_branches_fails_iff tag.loopHeader
      (fun h body empty => .loop h.variableName h.iterable body empty) rfl ?_ rfl
    rw [compileHere, compile]
    cases tag.loopHeader <;> rfl
  | load => exact compile_load_fails_iff
  | slot => exact compile_slot_fails_iff
  | slotOutput =>
    exact compile_single_fails_iff (tag.slotName.map .slotOutput) rfl (by simp)
      (by rw [Binding.header]; cases tag.slotName <;> rfl) rfl
  | inline c =>
    exact compile_single_fails_iff
      (tag.invocationArguments.map (.invocation c tag.name · [] tag.span)) rfl (by simp)
      (by rw [Binding.header]; cases tag.invocationArguments <;> rfl) rfl
  | block c => exact compile_block_fails_iff
  | plain output =>
    exact compile_single_fails_iff (.ok (output.elim .empty .text)) rfl (by simp) rfl rfl

end

/-! ## Failing by the first lexeme -/

section

variable {ends : List String} {lexeme : Lexeme} {rest : List Lexeme}

theorem parseUntil_nil_fails (pending : p.pending = []) :
    (p.parseUntil ends).Fails err ↔ ends ≠ [] ∧ p.unclosed ends = err := by
  rw [parseUntil]
  split
  · cases ends <;> simp
  · rename_i pending'
    cases pending.symm.trans pending'

theorem parseUntil_text_fails {s : String} (pending : p.pending = lexeme :: rest)
    (token : lexeme.token = .text s) :
    (p.parseUntil ends).Fails err ↔ ((p.advance rest).parseUntil ends).Fails err := by
  rw [parseUntil]
  split
  · rename_i pending'
    cases pending.symm.trans pending'
  · rename_i pending'
    cases pending.symm.trans pending'
    split <;> rename_i token' <;> cases token.symm.trans token'
    simp

theorem parseUntil_output_fails {contents : String} {offset : Nat}
    (pending : p.pending = lexeme :: rest) (token : lexeme.token = .variable contents offset) :
    (p.parseUntil ends).Fails err ↔
      (∃ e, Expr.ofVariable contents offset lexeme.line = .error e ∧ .tag e = err) ∨
        ∃ x, Expr.ofVariable contents offset lexeme.line = .ok x ∧
          ((p.advance rest).parseUntil ends).Fails err := by
  rw [parseUntil]
  split
  · rename_i pending'
    cases pending.symm.trans pending'
  · rename_i pending'
    cases pending.symm.trans pending'
    split <;> rename_i token' <;> cases token.symm.trans token'
    split <;> rename_i valid <;> simp [valid]

theorem parseUntil_tag_fails {tag : Tag} (pending : p.pending = lexeme :: rest)
    (token : lexeme.token = .block tag) :
    (p.parseUntil ends).Fails err ↔
      tag.name ∉ ends ∧
        (p.tags.get? tag.name = none ∧ .unknownTag tag.name tag.span tag.line ends = err ∨
          ∃ b, p.tags.get? tag.name = some b ∧
            (Breaks ((p.advance rest).enter tag) b tag err ∨
              ∃ node r, Compiles ((p.advance rest).enter tag) b tag node r ∧
                (r.leave.parseUntil ends).Fails err)) := by
  rw [parseUntil]
  split
  · rename_i pending'
    cases pending.symm.trans pending'
  · rename_i pending'
    cases pending.symm.trans pending'
    split <;> rename_i token' <;> cases token.symm.trans token'
    split
    · rename_i awaited
      have awaited : tag.name ∈ ends := by simpa using awaited
      simp [awaited]
    · rename_i free
      have free : tag.name ∉ ends := by simpa using free
      simp only [free, not_false_eq_true, true_and]
      split
      · rename_i unbound
        simp [unbound]
      · rename_i b bound
        have forward : ((p.advance rest).enter tag).pending.length ≤ p.pending.length :=
          Nat.le_of_lt (pending_advance_lt pending)
        simp only [bound, reduceCtorEq, false_and, false_or, Option.some.injEq]
        constructor
        · intro h
          rcases andThen_fails.1 ((since_fails forward).1 h) with left | ⟨node, _, left, more⟩
          · exact ⟨b, rfl, .inl (compile_fails_iff.1 (leave_fails.1 left))⟩
          · obtain ⟨r, compiled, rfl⟩ := leave_gives.1 left
            exact ⟨b, rfl, .inr ⟨node, r, compile_gives_iff.1 compiled, map_fails.1 more⟩⟩
        · rintro ⟨_, rfl, breaks | ⟨node, r, compiles, more⟩⟩
          · exact (since_fails forward).2 (andThen_fails.2 (.inl
              (leave_fails.2 (compile_fails_iff.2 breaks))))
          · exact (since_fails forward).2 (andThen_fails.2 (.inr ⟨node, r.leave,
              leave_gives.2 ⟨r, compile_gives_iff.2 compiles, rfl⟩, map_fails.2 more⟩))

end

/-! ## Where a parser fails -/

/-- The parser inside blocks, before the lexemes `pending`. -/
def inside (p : Parser) (blocks : List OpenBlock) (pending : List Lexeme) (tags : Dict Binding) :
    Parser :=
  { p.resume pending tags with opened := blocks.map (·.head.tag) }

variable {libraries : Dict Library} {builtins tags tags' : Dict Binding} {ends : List String}
  {read rest : List Lexeme} {heads : List Head} {blocks : List OpenBlock}

/-- What is wrong behind nodes that are in order is wrong with all of it. -/
theorem fails_of_derives {d : Derivation} {ns : List Node}
    (h : Derives libraries ends tags d ns tags') (hl : p.libraries = libraries) (ht : p.tags = tags)
    (pending : p.pending = d.lexemes ++ rest)
    (fails : ((p.resume rest tags').parseUntil ends).Fails err) :
    (p.parseUntil ends).Fails err := by
  induction h generalizing p with
  | nil =>
    subst hl ht
    rw [Derivation.lexemes, List.nil_append] at pending
    subst pending
    exact fails
  | text token _ ih => exact (parseUntil_text_fails pending token).2 (ih hl ht rfl fails)
  | output token valid _ ih =>
    exact (parseUntil_output_fails pending token).2 (.inr ⟨_, valid, ih hl ht rfl fails⟩)
  | load opens load named loads _ ih =>
    subst hl ht
    exact (parseUntil_tag_fails pending opens.token).2 ⟨opens.free, .inr ⟨_, opens.bound,
      .inr ⟨_, _, .load load named loads, ih rfl rfl rfl fails⟩⟩⟩
  | single opens form builds _ ih =>
    subst hl ht
    exact (parseUntil_tag_fails pending opens.token).2 ⟨opens.free, .inr ⟨_, opens.bound,
      .inr ⟨_, _, .single form builds, ih rfl rfl rfl fails⟩⟩⟩
  | @block _ _ _ _ head _ _ closing inner d _ _ _ opens form derives closes builds _ _ ih =>
    subst hl ht
    simp only [Derivation.lexemes, List.cons_append, List.append_assoc] at pending
    have content := gives_of_derives
      (p := (p.advance (inner.lexemes ++ closing :: (d.lexemes ++ rest))).enter head.tag)
      derives (.tag closes (by simp)) rfl rfl rfl
    exact (parseUntil_tag_fails pending opens.token).2 ⟨opens.free, .inr ⟨_, opens.bound,
      .inr ⟨_, _, .of_block form content closes builds, ih rfl rfl rfl fails⟩⟩⟩
  | @divided _ _ tags₁ _ _ head _ _ dividing closing first second d _ _ _ _ opens form derives
      divides derives' closes builds _ _ _ ih =>
    subst hl ht
    simp only [Derivation.lexemes, List.cons_append, List.append_assoc] at pending
    have content := gives_of_derives
      (p := (p.advance (first.lexemes ++
        dividing :: (second.lexemes ++ closing :: (d.lexemes ++ rest)))).enter head.tag)
      derives (.tag divides (by simp)) rfl rfl rfl
    have more := gives_of_derives
      (p := (p.enter head.tag).resume (second.lexemes ++ closing :: (d.lexemes ++ rest)) tags₁)
      derives' (.tag closes (by simp)) rfl rfl rfl
    exact (parseUntil_tag_fails pending opens.token).2 ⟨opens.free, .inr ⟨_, opens.bound,
      .inr ⟨_, _, .of_divided form content divides more closes builds, ih rfl rfl rfl fails⟩⟩⟩

/-- What is wrong behind a place that the parser comes to is wrong with the whole source. -/
theorem fails_of_arrives (h : Arrives libraries builtins read heads blocks tags)
    (hl : p.libraries = libraries)
    (fails : ((p.inside blocks rest tags).parseUntil (awaited blocks)).Fails err) :
    ((p.inside [] (read ++ rest) builtins).parseUntil []).Fails err := by
  induction h generalizing rest with
  | start => exact fails
  | nodes _ derives ih =>
    rw [List.append_assoc]
    exact ih (fails_of_derives derives hl rfl rfl fails)
  | opens _ opens form header ih =>
    rw [List.append_assoc]
    refine ih ((parseUntil_tag_fails rfl opens.token).2
      ⟨opens.free, .inr ⟨_, opens.bound, .inl ?_⟩⟩)
    exact .content form header fails
  | @divides read _ blocks tags tags' head middle last d _ dividing _ opens form header first named
      ih =>
    rw [List.append_assoc, List.cons_append, List.append_assoc, List.singleton_append]
    refine ih ((parseUntil_tag_fails rfl opens.token).2
      ⟨opens.free, .inr ⟨_, opens.bound, .inl ?_⟩⟩)
    have content := gives_of_derives
      (p := (p.inside blocks (d.lexemes ++ dividing :: rest) tags).enter head.tag)
      first (.tag named (by simp)) hl rfl rfl
    obtain ⟨tag, token, rfl⟩ := named
    refine .second form header content (congrArg Prod.fst (consumeEnd_resume token)) rfl ?_
    rw [consumeEnd_resume token]
    exact fails

/-- A fault behind a place that the parser comes to is what reading fails with there. -/
theorem fails_of_fault (arrives : Arrives libraries builtins read heads blocks tags)
    (hl : p.libraries = libraries) (fault : Fault libraries blocks tags rest err) :
    ((p.inside blocks rest tags).parseUntil (awaited blocks)).Fails err := by
  subst hl
  cases fault with
  | unclosed innermost =>
    refine (parseUntil_nil_fails rfl).2 ⟨?_, ?_⟩
    · rw [ne_eq, arrives.awaited_eq_nil_iff, innermost]
      exact List.cons_ne_nil _ _
    · subst innermost
      rfl
  | unknown token free unbound =>
    exact (parseUntil_tag_fails rfl token).2 ⟨free, .inl ⟨unbound, rfl⟩⟩
  | output token invalid => exact (parseUntil_output_fails rfl token).2 (.inl ⟨_, invalid, rfl⟩)
  | header opens invalid =>
    exact (parseUntil_tag_fails rfl opens.token).2 ⟨opens.free, .inr ⟨_, opens.bound,
      .inl (.header invalid)⟩⟩
  | library opens load names loads missing =>
    exact (parseUntil_tag_fails rfl opens.token).2 ⟨opens.free, .inr ⟨_, opens.bound,
      .inl (.library load names loads missing)⟩⟩
  | @slots head c body _ _ closing rest _ opens block header content closes repeated =>
    have gives := gives_of_derives
      (p := (p.inside blocks (body.lexemes ++ closing :: rest) tags).enter head.tag)
      content (.tag closes (by simp)) rfl rfl rfl
    exact (parseUntil_tag_fails rfl opens.token).2 ⟨opens.free, .inr ⟨_, opens.bound,
      .inl (.slots block header gives repeated)⟩⟩

/-- Where a tag fails to compile, a fault lies in it or behind a place inside its block. -/
theorem faulty_of_breaks {head : Head}
    (arrives : Arrives p.libraries builtins read heads blocks p.tags)
    (opened : p.opened = blocks.map (·.head.tag)) (opens : head.Opens (awaited blocks) p.tags)
    (breaks : Breaks ((p.advance rest).enter head.tag) head.binding head.tag err)
    (content : ∀ q : Parser, q.pending.length ≤ rest.length → ∀ {read heads blocks},
      Arrives q.libraries builtins read heads blocks q.tags →
      q.opened = blocks.map (·.head.tag) → (q.parseUntil (awaited blocks)).Fails err →
      Faulty q.libraries builtins (read ++ q.pending) err) :
    Faulty p.libraries builtins (read ++ head.lexeme :: rest) err := by
  have entered : ((p.advance rest).enter head.tag).opened = head.tag :: blocks.map (·.head.tag) :=
    congrArg (head.tag :: ·) opened
  cases breaks with
  | header invalid => exact ⟨read, _, heads, blocks, p.tags, rfl, arrives, .header opens invalid⟩
  | library load names loads missing =>
    exact ⟨read, _, heads, blocks, p.tags, rfl, arrives, .library opens load names loads missing⟩
  | content form header fails =>
    have faulty := content ((p.advance rest).enter head.tag) (Nat.le_refl _)
      (arrives.opens opens form header) entered fails
    rw [List.append_assoc] at faulty
    exact faulty
  | second form header gives divides name fails =>
    obtain ⟨d, tags, closing, t, rest', derives, left, named, -, consumed⟩ :=
      (derived_of_gives gives).closing (by simp)
    obtain rfl : rest = d.lexemes ++ closing :: rest' := left
    rw [consumed] at divides fails
    cases divides
    have shorter : rest'.length ≤ (d.lexemes ++ closing :: rest').length := by
      simp only [List.length_append, List.length_cons]
      omega
    have faulty := content (((p.advance _).enter head.tag).resume rest' tags) shorter
      (arrives.divides opens form header derives (name ▸ named)) entered fails
    rw [List.append_assoc, List.cons_append, List.append_assoc] at faulty
    exact faulty
  | slots block header gives repeated =>
    obtain ⟨d, tags, closing, t, rest', derives, left, named, awaits, -⟩ :=
      (derived_of_gives gives).closing (by simp)
    obtain rfl : rest = d.lexemes ++ closing :: rest' := left
    have closes := List.mem_singleton.1 awaits ▸ named
    exact ⟨read, _, heads, blocks, p.tags, rfl, arrives,
      .slots opens block header derives closes repeated⟩

/-- Where reading fails, it fails with a fault behind a place that the parser comes to. -/
theorem faulty_of_fails (arrives : Arrives p.libraries builtins read heads blocks p.tags)
    (opened : p.opened = blocks.map (·.head.tag))
    (fails : (p.parseUntil (awaited blocks)).Fails err) :
    Faulty p.libraries builtins (read ++ p.pending) err := by
  generalize size : p.pending.length = n
  induction n using Nat.strongRecOn generalizing p read heads blocks with
  | ind n ih =>
    subst size
    cases pending : p.pending with
    | nil =>
      obtain ⟨awaits, rfl⟩ := (parseUntil_nil_fails pending).1 fails
      cases blocks with
      | nil => exact absurd rfl awaits
      | cons block outer =>
        refine ⟨read, [], heads, _, p.tags, rfl, arrives, ?_⟩
        rw [unclosed, opened]
        exact .unclosed rfl
    | cons lexeme rest =>
      have shorter : rest.length < p.pending.length := by simp [pending]
      -- what is read of nodes that are in order is part of the way to the fault
      have behind {d : Derivation} {ns : List Node} {tags' : Dict Binding} {rest' : List Lexeme}
          (derives : Derives p.libraries (awaited blocks) p.tags d ns tags')
          (split : lexeme :: rest = d.lexemes ++ rest') (le : rest'.length ≤ rest.length)
          (fails : ((p.resume rest' tags').parseUntil (awaited blocks)).Fails err) :
          Faulty p.libraries builtins (read ++ lexeme :: rest) err := by
        have faulty := ih _ (Nat.lt_of_le_of_lt le shorter) (p := p.resume rest' tags')
          (arrives.nodes derives) opened fails rfl
        rw [List.append_assoc] at faulty
        rw [split]
        exact faulty
      cases token : lexeme.token with
      | text s =>
        exact behind (.text token .nil) rfl (Nat.le_refl _)
          ((parseUntil_text_fails pending token).1 fails)
      | «variable» contents offset =>
        rcases (parseUntil_output_fails pending token).1 fails with
          ⟨e, invalid, rfl⟩ | ⟨x, valid, more⟩
        · exact ⟨read, _, heads, blocks, p.tags, rfl, arrives, .output token invalid⟩
        · exact behind (.output token valid .nil) rfl (Nat.le_refl _) more
      | block tag =>
        obtain ⟨free, ⟨unbound, rfl⟩ | ⟨b, bound, broken⟩⟩ :=
          (parseUntil_tag_fails pending token).1 fails
        · exact ⟨read, _, heads, blocks, p.tags, rfl, arrives, .unknown token free unbound⟩
        · have opens : Head.Opens ⟨lexeme, tag, b⟩ (awaited blocks) p.tags := ⟨token, free, bound⟩
          rcases broken with breaks | ⟨node, r, compiles, more⟩
          · exact faulty_of_breaks arrives opened opens breaks fun q le =>
              fun arrives opened fails =>
                ih _ (Nat.lt_of_le_of_lt le shorter) arrives opened fails rfl
          · obtain ⟨d, tags', rest', derives, split, le, left⟩ :=
              compiles.derived ⟨lexeme, tag, b⟩ opens fun _ _ => derived_of_gives
            rw [left] at more
            exact behind derives split le more

/-- A source is rejected exactly with what is wrong behind a place that the parser comes to. -/
theorem parse_eq_error_iff {source : String} {builtins : Library} {libraries : Dict Library} :
    (start source builtins libraries).parse.1 = .error err ↔
      Faulty libraries builtins.tags (tokenize source) err := by
  constructor
  · exact faulty_of_fails (p := start source builtins libraries) .start rfl
  · rintro ⟨read, rest, heads, blocks, tags, split, arrives, fault⟩
    have fails := fails_of_arrives (p := start source builtins libraries) arrives rfl
      (fails_of_fault arrives rfl fault)
    rw [← split] at fails
    exact fails

end SlotTemplate.Parser
