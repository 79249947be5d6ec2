import SlotTemplate.Component.Stock
import SlotTemplate.Engine
import SlotTemplate.Proofs.Derivation
import SlotTemplate.Proofs.Result

/-!
# Parsing accepts the grammar of blocks

* `compile_gives_iff`: what the compilation of one tag can come to;
* `parseUntil_gives_iff`: nodes are read exactly where they have a derivation, and the parser then
  stands behind it with its stack of tags as before;
* `parse_eq_ok_iff`: a source compiles to the nodes of its one derivation;
* `Engine.compileNamed_eq_ok_iff`: so it does in an engine.
-/

namespace SlotTemplate.Parser

open Markup

variable {p q r : Parser} {α β : Type} {a : α} {b : β}

namespace Outcome

/-- A step succeeds with a result and ends in a parser. -/
def Gives (o : Outcome p α) (a : α) (q : Parser) : Prop := o.1 = .ok a ∧ o.2.1 = q

theorem Gives.pending_le {o : Outcome p α} (h : o.Gives a q) :
    q.pending.length ≤ p.pending.length :=
  h.2 ▸ o.2.2

@[simp] theorem here_gives {x : Except CompileError α} :
    (here x : Outcome p α).Gives a q ↔ x = .ok a ∧ p = q :=
  Iff.rfl

@[simp] theorem map_gives {o : Outcome p α} {f : α → β} :
    (o.map f).Gives b q ↔ ∃ a, o.Gives a q ∧ f a = b := by
  obtain ⟨x, q'⟩ := o
  cases x with
  | error e => simp [Gives, map, Except.map]
  | ok a =>
    constructor
    · rintro ⟨h, rfl⟩
      cases h
      exact ⟨a, ⟨rfl, rfl⟩, rfl⟩
    · rintro ⟨_, ⟨h, rfl⟩, rfl⟩
      cases h
      exact ⟨rfl, rfl⟩

@[simp] theorem since_gives (h : q.pending.length ≤ p.pending.length) {o : Outcome q α} :
    (o.since h).Gives a r ↔ o.Gives a r :=
  Iff.rfl

@[simp] theorem andThen_gives {o : Outcome p α}
    {f : α → (q : Parser) → q.pending.length ≤ p.pending.length → Outcome q β} :
    (o.andThen f).Gives b r ↔ ∃ a q, ∃ h : o.Gives a q, (f a q h.pending_le).Gives b r := by
  obtain ⟨x, q'⟩ := o
  cases x with
  | error e => simp [Gives, andThen]
  | ok a =>
    constructor
    · intro h
      exact ⟨a, q'.1, ⟨rfl, rfl⟩, h⟩
    · rintro ⟨_, _, ⟨h, rfl⟩, hf⟩
      cases h
      exact hf

@[simp] theorem leave_gives {o : Outcome p α} :
    o.leave.Gives a q ↔ ∃ r, o.Gives a r ∧ r.leave = q := by
  constructor
  · rintro ⟨h, rfl⟩
    exact ⟨_, ⟨h, rfl⟩, rfl⟩
  · rintro ⟨_, ⟨h, rfl⟩, rfl⟩
    exact ⟨h, rfl⟩

@[simp] theorem skipEnd_gives {o : Outcome p α} :
    o.skipEnd.Gives a q ↔ ∃ r, o.Gives a r ∧ r.consumeEnd.2 = q := by
  rw [skipEnd, andThen_gives]
  constructor
  · rintro ⟨_, r, h, ⟨⟨⟩, rfl⟩⟩
    exact ⟨r, h, rfl⟩
  · rintro ⟨r, h, rfl⟩
    exact ⟨a, r, h, rfl, rfl⟩

end Outcome

open Outcome

/-- The parser with other lexemes pending and other tags bound. -/
def resume (p : Parser) (pending : List Lexeme) (tags : Dict Binding) : Parser :=
  { p with pending, tags }

theorem loadLibraries_ok_iff {blamed : Tag} {names : List String} :
    loadLibraries blamed names p = (.ok (), q) ↔
      ∃ tags, Loads p.libraries names p.tags tags ∧ q = p.resume p.pending tags := by
  induction names generalizing p with
  | nil =>
    constructor
    · rintro ⟨⟩
      exact ⟨_, .nil, rfl⟩
    · rintro ⟨_, ⟨⟩, rfl⟩
      rfl
  | cons name names ih =>
    cases found : p.libraries.get? name with
    | none =>
      simp only [loadLibraries, loadLibrary, found, Prod.mk.injEq, reduceCtorEq, false_and,
        false_iff, not_exists]
      rintro _ ⟨loads, -⟩
      cases loads with
      | cons found' => cases found.symm.trans found'
    | some library =>
      simp only [loadLibraries, loadLibrary, found]
      rw [ih]
      constructor
      · rintro ⟨tags, loads, rfl⟩
        exact ⟨tags, .cons found loads, rfl⟩
      · rintro ⟨tags, loads, rfl⟩
        cases loads with
        | cons found' rest =>
          cases found.symm.trans found'
          exact ⟨tags, rest, rfl⟩

/-- How the compilation of a tag succeeds: with what result and in which parser. -/
inductive Compiles (p : Parser) (b : Binding) (tag : Tag) : Node → Parser → Prop where
  | load {tags : Dict Binding} (load : b = .load) (named : tag.words.tail ≠ [])
      (loads : Loads p.libraries tag.words.tail p.tags tags) :
      Compiles p b tag .empty (p.resume p.pending tags)
  | single {node : Node} (form : b.form = .alone) (builds : Builds b tag [] [] node) :
      Compiles p b tag node p
  | block {middle? : Option String} {last : String} {q : Parser} {body : List Node} {node : Node}
      (form : b.form = .block middle? last)
      (content : (p.parseUntil (middle?.toList ++ [last])).Gives body q)
      (undivided : ∀ closing, q.consumeEnd.1 = some closing → middle? ≠ some closing.name)
      (builds : Builds b tag body [] node) : Compiles p b tag node q.consumeEnd.2
  | divided {middle last : String} {q r : Parser} {dividing : Tag} {first second : List Node}
      {node : Node} (form : b.form = .block (some middle) last)
      (content : (p.parseUntil [middle, last]).Gives first q)
      (divides : q.consumeEnd.1 = some dividing) (name : dividing.name = middle)
      (more : (q.consumeEnd.2.parseUntil [last]).Gives second r)
      (builds : Builds b tag first second node) : Compiles p b tag node r.consumeEnd.2

/-- How a tag is compiled where the parser itself reads the nodes of its block. -/
abbrev compileHere (p : Parser) (b : Binding) (tag : Tag) : Outcome p Node :=
  p.compile (fun q _ ends => q.parseUntil ends) b tag

theorem branches_gives_iff {middle last : String} {first second : List Node} :
    (p.branches (fun q _ ends => q.parseUntil ends) middle last).Gives (first, second) r ↔
      ∃ q, (p.parseUntil [middle, last]).Gives first q ∧
        ((q.consumeEnd.1.any (·.name == middle) = false ∧ second = [] ∧ q.consumeEnd.2 = r) ∨
          q.consumeEnd.1.any (·.name == middle) = true ∧
            ∃ s, (q.consumeEnd.2.parseUntil [last]).Gives second s ∧ s.consumeEnd.2 = r) := by
  rw [branches, andThen_gives]
  constructor
  · rintro ⟨first', q, h, rest⟩
    rw [since_gives] at rest
    split at rest
    · rename_i divided
      obtain ⟨second', hs, e⟩ := map_gives.1 rest
      obtain ⟨s, more, rfl⟩ := skipEnd_gives.1 hs
      cases e
      exact ⟨q, h, .inr ⟨divided, s, more, rfl⟩⟩
    · rename_i undivided
      obtain ⟨e, rfl⟩ := here_gives.1 rest
      cases e
      exact ⟨q, h, .inl ⟨by simpa using undivided, rfl, rfl⟩⟩
  · rintro ⟨q, h, ⟨undivided, rfl, rfl⟩ | ⟨divided, s, more, rfl⟩⟩
    · refine ⟨first, q, h, (since_gives _).2 ?_⟩
      rw [if_neg (by simp [undivided])]
      exact here_gives.2 ⟨rfl, rfl⟩
    · refine ⟨first, q, h, (since_gives _).2 ?_⟩
      rw [if_pos divided]
      exact map_gives.2 ⟨second, skipEnd_gives.2 ⟨s, more, rfl⟩, rfl⟩

theorem any_name_eq_false {o : Option Tag} {name : String} :
    o.any (·.name == name) = false ↔ ∀ tag, o = some tag → some name ≠ some tag.name := by
  cases o with
  | none => simp
  | some tag => simpa using not_congr eq_comm

theorem any_name_eq_true {o : Option Tag} {name : String} :
    o.any (·.name == name) = true ↔ ∃ tag, o = some tag ∧ tag.name = name := by
  cases o <;> simp

section

variable {binding : Binding} {tag : Tag} {node : Node}

/-- Blocks that a second tag may divide. -/
theorem compile_branches_iff {γ : Type} {middle last : String} (header : Except TagError γ)
    (make : γ → List Node → List Node → Node) (form : binding.form = .block (some middle) last)
    (step : p.compileHere binding tag = match header with
      | .error e => .here (.error (.tag e))
      | .ok c => (p.branches (fun q _ ends => q.parseUntil ends) middle last).map
          fun (first, second) => make c first second)
    (builds : ∀ {first second node}, Builds binding tag first second node ↔
      ∃ c, header = .ok c ∧ make c first second = node) :
    (p.compileHere binding tag).Gives node q ↔ Compiles p binding tag node q := by
  rw [step]
  cases header with
  | error e =>
    simp only [here_gives, reduceCtorEq, false_and, false_iff]
    intro h
    cases h with
    | load load => rw [load] at form; cases form
    | single form' => cases form.symm.trans form'
    | block _ _ _ built | divided _ _ _ _ _ built =>
      obtain ⟨_, e, _⟩ := builds.1 built
      cases e
  | ok c =>
    simp only [map_gives]
    constructor
    · rintro ⟨⟨first, second⟩, h, rfl⟩
      obtain ⟨q', content, ⟨undivided, rfl, rfl⟩ | ⟨divided, s, more, rfl⟩⟩ :=
        branches_gives_iff.1 h
      · exact .block form content (any_name_eq_false.1 undivided) (builds.2 ⟨c, rfl, rfl⟩)
      · obtain ⟨dividing, divides, name⟩ := any_name_eq_true.1 divided
        exact .divided form content divides name more (builds.2 ⟨c, rfl, rfl⟩)
    · intro h
      cases h with
      | load load => rw [load] at form; cases form
      | single form' => cases form.symm.trans form'
      | block form' content undivided built =>
        cases form.symm.trans form'
        obtain ⟨_, e, rfl⟩ := builds.1 built
        cases e
        exact ⟨_, branches_gives_iff.2
          ⟨_, content, .inl ⟨any_name_eq_false.2 undivided, rfl, rfl⟩⟩, rfl⟩
      | divided form' content divides name more built =>
        cases form.symm.trans form'
        obtain ⟨_, e, rfl⟩ := builds.1 built
        cases e
        exact ⟨_, branches_gives_iff.2
          ⟨_, content, .inr ⟨any_name_eq_true.2 ⟨_, divides, name⟩, _, more, rfl⟩⟩, rfl⟩

/-- Tags that stand alone. -/
theorem compile_single_iff {result : Except CompileError Node} (form : binding.form = .alone)
    (load : binding ≠ .load)
    (builds : ∀ {node}, Builds binding tag [] [] node ↔ result = .ok node)
    (step : p.compileHere binding tag = .here result) :
    (p.compileHere binding tag).Gives node q ↔ Compiles p binding tag node q := by
  rw [step, here_gives]
  constructor
  · rintro ⟨h, rfl⟩
    exact .single form (builds.2 h)
  · intro h
    cases h with
    | load load' => exact absurd load' load
    | single _ built => exact ⟨builds.1 built, rfl⟩
    | block form' | divided form' => cases form.symm.trans form'

theorem compile_load_iff :
    (p.compileHere .load tag).Gives node q ↔ Compiles p .load tag node q := by
  cases words : tag.words.tail with
  | nil =>
    simp only [compileHere, compile, load, words, here_gives, reduceCtorEq, false_and, false_iff]
    rintro (⟨-, named, -⟩ | ⟨-, ⟨⟩⟩ | ⟨⟨⟩⟩ | ⟨⟨⟩⟩)
    exact named words
  | cons name names =>
    have step : (p.compileHere .load tag).Gives node q ↔
        .empty = node ∧ loadLibraries tag tag.words.tail p = (.ok (), q) := by
      simp only [compileHere, compile, load, words, Gives]
      obtain ⟨x, r⟩ := loadLibraries tag (name :: names) p
      cases x <;> simp
    rw [step, loadLibraries_ok_iff]
    constructor
    · rintro ⟨rfl, tags, loads, rfl⟩
      exact .load rfl (by simp [words]) loads
    · rintro (⟨-, -, loads⟩ | ⟨-, ⟨⟩⟩ | ⟨⟨⟩⟩ | ⟨⟨⟩⟩)
      exact ⟨rfl, _, loads, rfl⟩

theorem compile_slot_iff :
    (p.compileHere .slot tag).Gives node q ↔ Compiles p .slot tag node q := by
  cases header : tag.slotName with
  | error e =>
    simp only [compileHere, compile, header, here_gives, reduceCtorEq, false_and, false_iff]
    intro h
    cases h with
    | load e | single e | divided e => cases e
    | block _ _ _ built => cases built with | slot header' => cases header.symm.trans header'
  | ok name =>
    simp only [compileHere, compile, header, skipEnd_gives, map_gives]
    constructor
    · rintro ⟨r, ⟨body, content, rfl⟩, rfl⟩
      exact .block rfl content (by simp) (.slot header)
    · intro h
      cases h with
      | load e | single e | divided e => cases e
      | block form content _ built =>
        cases form
        cases built with
        | slot header' =>
          cases header.symm.trans header'
          exact ⟨_, ⟨_, content, rfl⟩, rfl⟩

theorem compile_block_iff {c : Component} :
    (p.compileHere (.block c) tag).Gives node q ↔ Compiles p (.block c) tag node q := by
  cases header : tag.invocationArguments with
  | error e =>
    simp only [compileHere, compile, header, here_gives, reduceCtorEq, false_and, false_iff]
    intro h
    cases h with
    | load e | single e | divided e => cases e
    | block _ _ _ built => cases built with | block header' => cases header.symm.trans header'
  | ok args =>
    simp only [compileHere, compile, header, andThen_gives, skipEnd_gives, here_gives,
      mapError_eq_ok_iff, map_eq_ok_iff]
    constructor
    · rintro ⟨body, _, ⟨r, content, rfl⟩, ⟨slots, parts, rfl⟩, rfl⟩
      obtain ⟨rfl, distinct⟩ := partitionSlots_eq_ok_iff.1 parts
      exact .block rfl content (by simp) (.block header distinct)
    · intro h
      cases h with
      | load e | single e | divided e => cases e
      | block form content _ built =>
        cases form
        cases built with
        | block header' distinct =>
          cases header.symm.trans header'
          exact ⟨_, _, ⟨_, content, rfl⟩,
            ⟨_, partitionSlots_eq_ok_iff.2 ⟨rfl, distinct⟩, rfl⟩, rfl⟩

/-- Compiling a tag succeeds in the ways that its form allows. -/
theorem compile_gives_iff :
    (p.compileHere binding tag).Gives node q ↔ Compiles p binding tag node q := by
  cases binding with
  | conditional =>
    refine compile_branches_iff tag.condition
      (fun c first second => .conditional c.negated c.expr first second) rfl
      (by rw [compileHere, compile]; cases tag.condition <;> rfl) ?_
    intro first second node
    constructor
    · rintro ⟨header⟩
      exact ⟨_, header, rfl⟩
    · rintro ⟨c, header, rfl⟩
      exact .conditional header
  | loop =>
    refine compile_branches_iff tag.loopHeader
      (fun h body empty => .loop h.variableName h.iterable body empty) rfl
      (by rw [compileHere, compile]; cases tag.loopHeader <;> rfl) ?_
    intro body empty node
    constructor
    · intro h
      cases h with
      | loop header => exact ⟨_, header, rfl⟩
    · rintro ⟨h, header, rfl⟩
      exact .loop header
  | load => exact compile_load_iff
  | slot => exact compile_slot_iff
  | slotOutput =>
    refine compile_single_iff rfl (by simp) ?_ rfl
    intro node
    rw [mapError_eq_ok_iff, map_eq_ok_iff]
    constructor
    · rintro ⟨⟩
      exact ⟨_, ‹_›, rfl⟩
    · rintro ⟨name, header, rfl⟩
      exact .slotOutput header
  | inline c =>
    refine compile_single_iff rfl (by simp) ?_ rfl
    intro node
    rw [mapError_eq_ok_iff, map_eq_ok_iff]
    constructor
    · rintro ⟨⟩
      exact ⟨_, ‹_›, rfl⟩
    · rintro ⟨args, header, rfl⟩
      exact .inline header
  | block c => exact compile_block_iff
  | plain output =>
    refine compile_single_iff rfl (by simp) ?_ rfl
    intro node
    constructor
    · rintro ⟨⟩
      rfl
    · rintro ⟨⟩
      exact .plain

end

/-! ## Reading by the first lexeme -/

section

variable {ends : List String} {ns : List Node} {lexeme : Lexeme} {rest : List Lexeme}

theorem parseUntil_nil (pending : p.pending = []) :
    (p.parseUntil ends).Gives ns q ↔ ends = [] ∧ ns = [] ∧ p = q := by
  rw [parseUntil]
  split
  · cases ends <;> simp [eq_comm]
  · rename_i pending'
    cases pending.symm.trans pending'

theorem parseUntil_text {s : String} (pending : p.pending = lexeme :: rest)
    (token : lexeme.token = .text s) :
    (p.parseUntil ends).Gives ns q ↔
      ∃ ns', ((p.advance rest).parseUntil ends).Gives ns' q ∧ .text s :: ns' = ns := by
  rw [parseUntil]
  split
  · rename_i pending'
    cases pending.symm.trans pending'
  · rename_i pending'
    cases pending.symm.trans pending'
    split <;> rename_i token' <;> cases token.symm.trans token'
    simp

theorem parseUntil_output {contents : String} {offset : Nat} (pending : p.pending = lexeme :: rest)
    (token : lexeme.token = .variable contents offset) :
    (p.parseUntil ends).Gives ns q ↔
      ∃ e ns', Expr.ofVariable contents offset lexeme.line = .ok e ∧
        ((p.advance rest).parseUntil ends).Gives ns' q ∧ .variable e :: ns' = ns := by
  rw [parseUntil]
  split
  · rename_i pending'
    cases pending.symm.trans pending'
  · rename_i pending'
    cases pending.symm.trans pending'
    split <;> rename_i token' <;> cases token.symm.trans token'
    split <;> rename_i valid <;> simp [valid]

theorem parseUntil_tag {tag : Tag} (pending : p.pending = lexeme :: rest)
    (token : lexeme.token = .block tag) :
    (p.parseUntil ends).Gives ns q ↔
      tag.name ∈ ends ∧ ns = [] ∧ p = q ∨
        tag.name ∉ ends ∧ ∃ b node r ns', p.tags.get? tag.name = some b ∧
          Compiles ((p.advance rest).enter tag) b tag node r ∧
          (r.leave.parseUntil ends).Gives ns' q ∧ node :: ns' = ns := by
  rw [parseUntil]
  split
  · rename_i pending'
    cases pending.symm.trans pending'
  · rename_i pending'
    cases pending.symm.trans pending'
    split <;> rename_i token' <;> cases token.symm.trans token'
    split
    · rename_i awaited
      have awaited : tag.name ∈ ends := by simpa using awaited
      simp [awaited, eq_comm]
    · rename_i free
      have free : tag.name ∉ ends := by simpa using free
      simp only [free, false_and, not_false_eq_true, true_and, false_or]
      split
      · rename_i unbound
        simp [unbound]
      · rename_i b bound
        have forward : ((p.advance rest).enter tag).pending.length ≤ p.pending.length :=
          Nat.le_of_lt (pending_advance_lt pending)
        constructor
        · intro h
          obtain ⟨node, _, left, more⟩ := andThen_gives.1 ((since_gives forward).1 h)
          obtain ⟨r, compiled, rfl⟩ := leave_gives.1 left
          obtain ⟨ns', after, rfl⟩ := map_gives.1 more
          exact ⟨b, node, r, ns', bound, compile_gives_iff.1 compiled, after, rfl⟩
        · rintro ⟨b', node, r, ns', bound', compiles, more, rfl⟩
          cases bound.symm.trans bound'
          exact (since_gives forward).2 (andThen_gives.2 ⟨node, r.leave,
            leave_gives.2 ⟨r, compile_gives_iff.2 compiles, rfl⟩,
            map_gives.2 ⟨ns', more, rfl⟩⟩)

end

/-! ## Soundness and completeness -/

theorem consumeEnd_resume {tag : Tag} {closing : Lexeme} {rest : List Lexeme}
    {tags : Dict Binding} (token : closing.token = .block tag) :
    (p.resume (closing :: rest) tags).consumeEnd = (some tag, p.resume rest tags) := by
  obtain ⟨_, _, _⟩ := closing
  cases token
  rfl

/-- Nodes are read up to where a derivation of them ends. -/
def Derived (p : Parser) (ends : List String) (ns : List Node) (q : Parser) : Prop :=
  ∃ d tags rest, Derives p.libraries ends p.tags d ns tags ∧ p.pending = d.lexemes ++ rest ∧
    Stops ends rest ∧ q = p.resume rest tags

variable {ends : List String} {ns : List Node}

/-- Behind the content of a block stands one of the awaited tags. -/
theorem Derived.closing (h : Derived p ends ns q) (awaits : ends ≠ []) :
    ∃ d tags closing tag rest, Derives p.libraries ends p.tags d ns tags ∧
      p.pending = d.lexemes ++ closing :: rest ∧ closing.Named tag.name ∧ tag.name ∈ ends ∧
      q.consumeEnd = (some tag, p.resume rest tags) := by
  obtain ⟨d, tags, _, derives, pending, stops, rfl⟩ := h
  cases stops with
  | source => exact absurd rfl awaits
  | @tag _ name closing rest named awaited =>
    obtain ⟨tag, token, rfl⟩ := named
    exact ⟨d, tags, closing, tag, rest, derives, pending, ⟨tag, token, rfl⟩, awaited,
      consumeEnd_resume token⟩

/-- A block that is compiled has a derivation of its own, if what is read inside it has one; the
parser then stands behind it. -/
theorem Compiles.derived (head : Head) {rest : List Lexeme} {node : Node}
    (compiles : Compiles ((p.advance rest).enter head.tag) head.binding head.tag node r)
    (opens : head.Opens ends p.tags)
    (inside : ∀ p' : Parser, p'.pending.length ≤ rest.length → ∀ {ends ns q},
      (p'.parseUntil ends).Gives ns q → Derived p' ends ns q) :
    ∃ d tags rest', Derives p.libraries ends p.tags d [node] tags ∧
      head.lexeme :: rest = d.lexemes ++ rest' ∧ rest'.length ≤ rest.length ∧
      r.leave = p.resume rest' tags := by
  cases compiles with
  | @load tags load named loads =>
    exact ⟨.single head .nil, tags, rest, .load opens load named loads .nil, rfl,
      Nat.le_refl _, rfl⟩
  | single form builds =>
    exact ⟨.single head .nil, p.tags, rest, .single opens form builds .nil, rfl,
      Nat.le_refl _, rfl⟩
  | @block middle? last q₁ body _ form content undivided builds =>
    obtain ⟨d₁, tags₁, closing, t, rest₁, inner, left, closes, awaited, consumed⟩ :=
      (inside ((p.advance rest).enter head.tag) (Nat.le_refl _) content).closing (by simp)
    obtain rfl : rest = d₁.lexemes ++ closing :: rest₁ := left
    rw [consumed] at undivided ⊢
    have last_eq : t.name = last := by
      have other := undivided t rfl
      cases middle? with
      | none => exact List.mem_singleton.1 awaited
      | some middle =>
        rcases List.mem_cons.1 awaited with e | h
        · exact absurd (congrArg some e.symm) other
        · exact List.mem_singleton.1 h
    refine ⟨.block head d₁ closing .nil, tags₁, rest₁,
      .block opens form inner (last_eq ▸ closes) builds .nil, ?_, ?_, rfl⟩
    · simp [Derivation.lexemes]
    · simp only [List.length_append, List.length_cons]
      omega
  | @divided middle last q₁ r₁ dividing first second _ form content divides name more builds =>
    obtain ⟨d₁, tags₁, closing₁, t₁, rest₁, inner₁, left₁, divides', -, consumed₁⟩ :=
      (inside ((p.advance rest).enter head.tag) (Nat.le_refl _) content).closing (by simp)
    obtain rfl : rest = d₁.lexemes ++ closing₁ :: rest₁ := left₁
    rw [consumed₁] at divides more
    cases divides
    have shorter : rest₁.length ≤ (d₁.lexemes ++ closing₁ :: rest₁).length := by
      simp only [List.length_append, List.length_cons]
      omega
    obtain ⟨d₂, tags₂, closing₂, t₂, rest₂, inner₂, left₂, closes, awaited, consumed₂⟩ :=
      (inside _ shorter more).closing (by simp)
    obtain rfl : rest₁ = d₂.lexemes ++ closing₂ :: rest₂ := left₂
    rw [consumed₂]
    refine ⟨.divided head d₁ closing₁ d₂ closing₂ .nil, tags₂, rest₂,
      .divided opens form inner₁ (name ▸ divides') inner₂ (List.mem_singleton.1 awaited ▸ closes)
        builds .nil, ?_, ?_, rfl⟩
    · simp [Derivation.lexemes]
    · simp only [List.length_append, List.length_cons]
      omega

theorem derived_of_gives (h : (p.parseUntil ends).Gives ns q) : Derived p ends ns q := by
  generalize size : p.pending.length = n
  induction n using Nat.strongRecOn generalizing p ends ns q with
  | ind n ih =>
    subst size
    cases pending : p.pending with
    | nil =>
      obtain ⟨rfl, rfl, rfl⟩ := (parseUntil_nil pending).1 h
      exact ⟨.nil, p.tags, [], .nil, pending, .source, by rw [← pending]; rfl⟩
    | cons lexeme rest =>
      have shorter : rest.length < p.pending.length := by simp [pending]
      cases token : lexeme.token with
      | text s =>
        obtain ⟨ns', more, rfl⟩ := (parseUntil_text pending token).1 h
        obtain ⟨d, tags, rest', after, left, stops, rfl⟩ := ih _ shorter more rfl
        exact ⟨.text lexeme d, tags, rest', .text token after,
          pending.trans (congrArg (lexeme :: ·) left), stops, rfl⟩
      | «variable» contents offset =>
        obtain ⟨e, ns', valid, more, rfl⟩ := (parseUntil_output pending token).1 h
        obtain ⟨d, tags, rest', after, left, stops, rfl⟩ := ih _ shorter more rfl
        exact ⟨.output lexeme d, tags, rest', .output token valid after,
          pending.trans (congrArg (lexeme :: ·) left), stops, rfl⟩
      | block tag =>
        rcases (parseUntil_tag pending token).1 h with
          ⟨awaited, rfl, rfl⟩ | ⟨free, b, node, r, ns', bound, compiles, more, rfl⟩
        · exact ⟨.nil, p.tags, p.pending, .nil, rfl, pending ▸ .tag ⟨tag, token, rfl⟩ awaited, rfl⟩
        · obtain ⟨d₀, tags₀, rest₀, first, left₀, shorter₀, e⟩ :=
            Compiles.derived ⟨lexeme, tag, b⟩ compiles ⟨token, free, bound⟩
              fun p' hp' => fun h' => ih _ (Nat.lt_of_le_of_lt hp' shorter) h' rfl
          rw [e] at more
          obtain ⟨d, tags, rest', after, left, stops, rfl⟩ :=
            ih _ (Nat.lt_of_le_of_lt shorter₀ shorter) more rfl
          refine ⟨d₀.append d, tags, rest', first.append after, ?_, stops, rfl⟩
          rw [pending, left₀, Derivation.lexemes_append, List.append_assoc]
          exact congrArg (d₀.lexemes ++ ·) left

theorem Compiles.of_block {b : Binding} {tag : Tag} {middle? : Option String} {last : String}
    {body : List Node} {node : Node} {closing : Lexeme} {rest : List Lexeme} {tags : Dict Binding}
    (form : b.form = .block middle? last)
    (content : (p.parseUntil (middle?.toList ++ [last])).Gives body
      (p.resume (closing :: rest) tags))
    (closes : closing.Named last) (builds : Builds b tag body [] node) :
    Compiles p b tag node (p.resume rest tags) := by
  obtain ⟨t, token, rfl⟩ := closes
  have consumed : (p.resume (closing :: rest) tags).consumeEnd = (some t, p.resume rest tags) :=
    consumeEnd_resume token
  have compiles := Compiles.block form content (by
    rw [consumed]
    rintro _ ⟨⟩ rfl
    exact Derives.middle_ne_last form rfl) builds
  rwa [consumed] at compiles

theorem Compiles.of_divided {b : Binding} {tag : Tag} {middle last : String}
    {first second : List Node} {node : Node} {dividing closing : Lexeme}
    {rest₁ rest₂ : List Lexeme} {tags₁ tags₂ : Dict Binding}
    (form : b.form = .block (some middle) last)
    (content : (p.parseUntil [middle, last]).Gives first (p.resume (dividing :: rest₁) tags₁))
    (divides : dividing.Named middle)
    (more : ((p.resume rest₁ tags₁).parseUntil [last]).Gives second
      (p.resume (closing :: rest₂) tags₂))
    (closes : closing.Named last) (builds : Builds b tag first second node) :
    Compiles p b tag node (p.resume rest₂ tags₂) := by
  obtain ⟨t₁, token₁, rfl⟩ := divides
  obtain ⟨t₂, token₂, rfl⟩ := closes
  have consumed₁ : (p.resume (dividing :: rest₁) tags₁).consumeEnd =
      (some t₁, p.resume rest₁ tags₁) := consumeEnd_resume token₁
  have consumed₂ : (p.resume (closing :: rest₂) tags₂).consumeEnd =
      (some t₂, p.resume rest₂ tags₂) := consumeEnd_resume token₂
  have compiles := Compiles.divided form content (congrArg Prod.fst consumed₁) rfl
    (by rwa [consumed₁]) builds
  rwa [consumed₂] at compiles

theorem gives_of_derives {libraries : Dict Library} {tags tags' : Dict Binding} {d : Derivation}
    {rest : List Lexeme} (h : Derives libraries ends tags d ns tags') (stops : Stops ends rest)
    (hl : p.libraries = libraries) (ht : p.tags = tags) (pending : p.pending = d.lexemes ++ rest) :
    (p.parseUntil ends).Gives ns (p.resume rest tags') := by
  induction h generalizing p rest with
  | nil =>
    subst hl ht
    rw [Derivation.lexemes, List.nil_append] at pending
    cases stops with
    | source => exact (parseUntil_nil pending).2 ⟨rfl, rfl, by rw [← pending]; rfl⟩
    | tag named awaited =>
      obtain ⟨tag, token, rfl⟩ := named
      exact (parseUntil_tag pending token).2 (.inl ⟨awaited, rfl, by rw [← pending]; rfl⟩)
  | text token _ ih =>
    exact (parseUntil_text pending token).2 ⟨_, ih stops hl ht rfl, rfl⟩
  | output token valid _ ih =>
    exact (parseUntil_output pending token).2 ⟨_, _, valid, ih stops hl ht rfl, rfl⟩
  | load opens load named loads _ ih =>
    subst hl ht
    exact (parseUntil_tag pending opens.token).2 (.inr ⟨opens.free, _, _, _, _, opens.bound,
      .load load named loads, ih stops rfl rfl rfl, rfl⟩)
  | single opens form builds _ ih =>
    subst hl ht
    exact (parseUntil_tag pending opens.token).2 (.inr ⟨opens.free, _, _, _, _, opens.bound,
      .single form builds, ih stops rfl rfl rfl, rfl⟩)
  | @block _ _ tags₁ _ head _ _ closing inner d _ _ _ opens form _ closes builds _ ihc ih =>
    subst hl ht
    simp only [Derivation.lexemes, List.cons_append, List.append_assoc] at pending
    have content := ihc
      (p := (p.advance (inner.lexemes ++ closing :: (d.lexemes ++ rest))).enter head.tag)
      (.tag closes (by simp)) rfl rfl rfl
    exact (parseUntil_tag pending opens.token).2 (.inr ⟨opens.free, _, _, _, _, opens.bound,
      .of_block form content closes builds, ih stops rfl rfl rfl, rfl⟩)
  | @divided _ _ tags₁ tags₂ _ head _ _ dividing closing first second d _ _ _ _ opens form _
      divides _ closes builds _ ihc ihm ih =>
    subst hl ht
    simp only [Derivation.lexemes, List.cons_append, List.append_assoc] at pending
    have content := ihc
      (p := (p.advance (first.lexemes ++
        dividing :: (second.lexemes ++ closing :: (d.lexemes ++ rest)))).enter head.tag)
      (.tag divides (by simp)) rfl rfl rfl
    have more := ihm
      (p := (p.enter head.tag).resume (second.lexemes ++ closing :: (d.lexemes ++ rest)) tags₁)
      (.tag closes (by simp)) rfl rfl rfl
    exact (parseUntil_tag pending opens.token).2 (.inr ⟨opens.free, _, _, _, _, opens.bound,
      .of_divided form content divides more closes builds, ih stops rfl rfl rfl, rfl⟩)

/-- Nodes are read exactly where they have a derivation. -/
theorem parseUntil_gives_iff : (p.parseUntil ends).Gives ns q ↔ Derived p ends ns q := by
  constructor
  · exact derived_of_gives
  · rintro ⟨d, tags, rest, derives, pending, stops, rfl⟩
    exact gives_of_derives derives stops rfl rfl pending

theorem parse_eq_ok_iff {source : String} {builtins : Library} {libraries : Dict Library} :
    (start source builtins libraries).parse.1 = .ok ns ↔
      ∃ d tags, d.lexemes = tokenize source ∧ Derives libraries [] builtins.tags d ns tags := by
  constructor
  · intro h
    obtain ⟨d, tags, rest, derives, pending, stops, -⟩ := parseUntil_gives_iff.1 ⟨h, rfl⟩
    cases stops with
    | source => exact ⟨d, tags, (pending.trans (List.append_nil _)).symm, derives⟩
    | tag _ awaited => exact absurd awaited List.not_mem_nil
  · rintro ⟨d, tags, e, derives⟩
    exact (parseUntil_gives_iff.2
      ⟨d, tags, [], derives, by rw [List.append_nil, e]; rfl, .source, rfl⟩).1

/-- The tag that a lexeme is, if it is one. -/
def tagOf? (l : Lexeme) : Option Tag :=
  match l.token with
  | .block tag => some tag
  | _ => none

theorem forall_tag {lexemes : List Lexeme} {P : Tag → Prop}
    (h : ∀ tag ∈ lexemes.filterMap tagOf?, P tag) :
    ∀ l ∈ lexemes, ∀ tag, l.token = .block tag → P tag := by
  intro l hl tag token
  exact h tag (List.mem_filterMap.2 ⟨l, hl, by rw [tagOf?, token]⟩)

theorem load_of_binding?_builtin {name : String}
    (h : Library.builtin.binding? name = some .load) : name = "load" := by
  grind [Library.builtin, Library.binding?_tag, Library.empty, Library.binding?, Dict.get?_empty]

/-- A component binds no tag to `load`. -/
theorem load_of_binding?_component {l : Library} {c : Component} {name : String}
    (h : (l.component c).binding? name = some .load) : l.binding? name = some .load := by
  grind [Library.component, Library.inlineComponent, Library.enter, Library.binding?, Library.tag,
    Dict.get?_insert]

/-- A derivation of a whole source, with a table of tags that is the same at its end. -/
def IsDerivation (tags : Dict Binding) (libraries : Dict Library) (source : String)
    (d : Derivation) (ns : List Node) : Prop :=
  d.lexemes = tokenize source ∧ Derives libraries [] tags d ns tags

/-- Without a `load` tag a source is accepted exactly if it has a derivation. It has one at most, and
compiles to the nodes of it. -/
theorem parse_iff_derivation {source : String} {builtins : Library} {libraries : Dict Library}
    (noLoad : ∀ lexeme ∈ tokenize source, ∀ tag, lexeme.token = .block tag →
      builtins.binding? tag.name ≠ some .load) :
    ((∃ ns, (start source builtins libraries).parse.1 = .ok ns) ↔
      ∃ d ns, IsDerivation builtins.tags libraries source d ns) ∧
    (∀ d ns d' ns', IsDerivation builtins.tags libraries source d ns →
      IsDerivation builtins.tags libraries source d' ns' → d = d' ∧ ns = ns') ∧
    ∀ ns, (start source builtins libraries).parse.1 = .ok ns ↔
      ∃ d, IsDerivation builtins.tags libraries source d ns := by
  have accepted (ns : List Node) : (start source builtins libraries).parse.1 = .ok ns ↔
      ∃ d, IsDerivation builtins.tags libraries source d ns := by
    rw [parse_eq_ok_iff]
    constructor
    · rintro ⟨d, tags, e, derives⟩
      obtain rfl := derives.tags_eq (by rw [e]; exact noLoad)
      exact ⟨d, e, derives⟩
    · rintro ⟨d, e, derives⟩
      exact ⟨d, _, e, derives⟩
  refine ⟨?_, ?_, accepted⟩
  · constructor
    · rintro ⟨ns, h⟩
      obtain ⟨d, hd⟩ := (accepted ns).1 h
      exact ⟨d, ns, hd⟩
    · rintro ⟨d, ns, hd⟩
      exact ⟨ns, (accepted ns).2 ⟨d, hd⟩⟩
  · rintro d ns d' ns' ⟨e, derives⟩ ⟨e', derives'⟩
    obtain ⟨rfl, rfl, -⟩ :=
      derives.unique (r := []) derives' (by rw [e, e']) .source .source
    exact ⟨rfl, rfl⟩

theorem parse_iff_derivation_nested :
    let library := Library.builtin.component (Component.named "card")
    let source := "{% card %}{% slot a %}{{ x }}{% /slot %}{% if x %}" ++
      "{% card %}{% slot b %}{% card/ %}{% /slot %}{% /card %}{% else %}y{% endif %}{% /card %}"
    (∀ lexeme ∈ tokenize source, ∀ tag, lexeme.token = .block tag →
      library.binding? tag.name ≠ some .load) ∧
    ∃ d ns, IsDerivation library.tags Dict.empty source d ns := by
  intro library source
  have names : ∀ tag ∈ (tokenize source).filterMap tagOf?, tag.name ≠ "load" := by decide +kernel
  have noLoad : ∀ lexeme ∈ tokenize source, ∀ tag, lexeme.token = .block tag →
      library.binding? tag.name ≠ some .load := by
    intro lexeme hl tag token load
    have name := load_of_binding?_builtin (load_of_binding?_component load)
    exact forall_tag names lexeme hl tag token name
  exact ⟨noLoad, (parse_iff_derivation noLoad).1.1 (exists_eq_ok (by decide +kernel))⟩

end SlotTemplate.Parser

namespace SlotTemplate

/-- An engine compiles a source to the nodes of its derivation. -/
theorem Engine.compileNamed_eq_ok_iff {e : Engine} {name source : String} {t : Template} :
    e.compileNamed name source = .ok t ↔ t.name = name ∧
      ∃ d tags, d.lexemes = Markup.tokenize source ∧
        Derives e.libraries [] e.builtins.tags d t.nodes tags := by
  rw [compileNamed, map_eq_ok_iff]
  constructor
  · rintro ⟨ns, hns, rfl⟩
    exact ⟨rfl, Parser.parse_eq_ok_iff.1 hns⟩
  · rintro ⟨rfl, derives⟩
    exact ⟨t.nodes, Parser.parse_eq_ok_iff.2 derives, rfl⟩

/-- A source that an engine compiles has a derivation. -/
theorem Engine.derives_of_compileNamed {e : Engine} {name source : String} {t : Template}
    (h : e.compileNamed name source = .ok t) :
    ∃ d tags, d.lexemes = Markup.tokenize source ∧
      Derives e.libraries [] e.builtins.tags d t.nodes tags :=
  (compileNamed_eq_ok_iff.1 h).2

end SlotTemplate
