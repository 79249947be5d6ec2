import SlotTemplate.Proofs.Derivation

/-!
# Where a parser comes to

A parser that has read a part of a source stands inside the blocks that are open there, with the
tags that are bound there. What it may meet next is read off that place alone.

* `Arrives`: the places that a parser comes to, with the tags that were compiled before;
* `Fault`: what is wrong with the lexemes behind a place;
* `Faulty`: a parser comes to a place with a fault behind it;
* `Derives.reached`: a parser comes to every place inside a source that has a derivation.
-/

namespace SlotTemplate

open Markup

namespace Binding

/-- What a tag itself has to say, before any node of its block is read. -/
def header (tag : Tag) : Binding → Except TagError Unit
  | .conditional => tag.condition.map fun _ => ()
  | .loop => tag.loopHeader.map fun _ => ()
  | .load =>
    if tag.words.tail.isEmpty then .error ⟨tag.name, tag.span, tag.line, .noLibraryNamed⟩
    else .ok ()
  | .slot => tag.slotName.map fun _ => ()
  | .slotOutput => tag.slotName.map fun _ => ()
  | .inline _ => tag.invocationArguments.map fun _ => ()
  | .block _ => tag.invocationArguments.map fun _ => ()
  | .plain _ => .ok ()

end Binding

/-- A block that is open, and the tags that may come next in it. -/
structure OpenBlock where
  head : Head
  ends : List String

/-- The tags that are awaited inside open blocks, the innermost of which is the first. -/
def awaited : List OpenBlock → List String
  | [] => []
  | block :: _ => block.ends

/-- `Arrives libraries builtins read heads blocks tags`: behind the lexemes `read` the blocks
`blocks` are open, the innermost first, and `tags` are bound; `heads` opened the blocks so far. -/
inductive Arrives (libraries : Dict Library) (builtins : Dict Binding) :
    List Lexeme → List Head → List OpenBlock → Dict Binding → Prop where
  | start : Arrives libraries builtins [] [] [] builtins
  | nodes {read : List Lexeme} {heads : List Head} {blocks : List OpenBlock}
      {tags tags' : Dict Binding} {d : Derivation} {ns : List Node}
      (before : Arrives libraries builtins read heads blocks tags)
      (derives : Derives libraries (awaited blocks) tags d ns tags') :
      Arrives libraries builtins (read ++ d.lexemes) (heads ++ d.heads) blocks tags'
  | opens {read : List Lexeme} {heads : List Head} {blocks : List OpenBlock}
      {tags : Dict Binding} {head : Head} {middle? : Option String} {last : String}
      (before : Arrives libraries builtins read heads blocks tags)
      (opens : head.Opens (awaited blocks) tags)
      (form : head.binding.form = .block middle? last)
      (header : head.binding.header head.tag = .ok ()) :
      Arrives libraries builtins (read ++ [head.lexeme]) (heads ++ [head])
        (⟨head, middle?.toList ++ [last]⟩ :: blocks) tags
  | divides {read : List Lexeme} {heads : List Head} {blocks : List OpenBlock}
      {tags tags' : Dict Binding} {head : Head} {middle last : String} {d : Derivation}
      {ns : List Node} {dividing : Lexeme}
      (before : Arrives libraries builtins read heads blocks tags)
      (opens : head.Opens (awaited blocks) tags)
      (form : head.binding.form = .block (some middle) last)
      (header : head.binding.header head.tag = .ok ())
      (first : Derives libraries [middle, last] tags d ns tags')
      (named : dividing.Named middle) :
      Arrives libraries builtins (read ++ head.lexeme :: (d.lexemes ++ [dividing]))
        (heads ++ head :: d.heads) (⟨head, [last]⟩ :: blocks) tags'

/-- `Fault libraries blocks tags rest err`: inside the open blocks `blocks`, where `tags` are bound,
the first thing wrong with the lexemes `rest` that follow is `err`, and it is wrong with what they
start with. -/
inductive Fault (libraries : Dict Library) (blocks : List OpenBlock) (tags : Dict Binding) :
    List Lexeme → CompileError → Prop where
  /-- The source ends inside a block. -/
  | unclosed {block : OpenBlock} {outer : List OpenBlock} (innermost : blocks = block :: outer) :
      Fault libraries blocks tags []
        (.unclosedTag block.head.tag.name block.head.tag.span block.head.tag.line block.ends)
  /-- A tag is neither awaited nor bound. -/
  | unknown {lexeme : Lexeme} {rest : List Lexeme} {tag : Tag}
      (token : lexeme.token = .block tag) (free : tag.name ∉ awaited blocks)
      (unbound : tags.get? tag.name = none) :
      Fault libraries blocks tags (lexeme :: rest)
        (.unknownTag tag.name tag.span tag.line (awaited blocks))
  | output {lexeme : Lexeme} {rest : List Lexeme} {contents : String} {offset : Nat} {e : TagError}
      (token : lexeme.token = .variable contents offset)
      (invalid : Expr.ofVariable contents offset lexeme.line = .error e) :
      Fault libraries blocks tags (lexeme :: rest) (.tag e)
  | header {head : Head} {rest : List Lexeme} {e : TagError}
      (opens : head.Opens (awaited blocks) tags)
      (invalid : head.binding.header head.tag = .error e) :
      Fault libraries blocks tags (head.lexeme :: rest) (.tag e)
  /-- A `load` tag names a library that is not there, behind some that are. -/
  | library {head : Head} {rest : List Lexeme} {known more : List String} {name : String}
      {tags' : Dict Binding} (opens : head.Opens (awaited blocks) tags)
      (load : head.binding = .load) (names : head.tag.words.tail = known ++ name :: more)
      (loads : Loads libraries known tags tags') (missing : libraries.get? name = none) :
      Fault libraries blocks tags (head.lexeme :: rest)
        (.tag ⟨head.tag.name, head.tag.span, head.tag.line, .unknownLibrary name⟩)
  /-- Two slots in the body of an invocation have the same name. -/
  | slots {head : Head} {c : Component} {body : Derivation} {ns : List Node} {tags' : Dict Binding}
      {closing : Lexeme} {rest : List Lexeme} {e : TagError}
      (opens : head.Opens (awaited blocks) tags) (block : head.binding = .block c)
      (header : head.binding.header head.tag = .ok ())
      (content : Derives libraries [c.closeTag] tags body ns tags')
      (closes : closing.Named c.closeTag) (repeated : partitionSlots head.tag ns = .error e) :
      Fault libraries blocks tags (head.lexeme :: (body.lexemes ++ closing :: rest)) (.tag e)

/-- A parser of lexemes comes to a place behind which something is wrong with them. -/
def Faulty (libraries : Dict Library) (builtins : Dict Binding) (lexemes : List Lexeme)
    (err : CompileError) : Prop :=
  ∃ read rest heads blocks tags, lexemes = read ++ rest ∧
    Arrives libraries builtins read heads blocks tags ∧ Fault libraries blocks tags rest err

namespace Arrives

variable {libraries : Dict Library} {builtins tags : Dict Binding} {read : List Lexeme}
  {heads : List Head} {blocks : List OpenBlock}

/-- Inside a block some tag is awaited. -/
theorem ends_ne_nil (h : Arrives libraries builtins read heads blocks tags) :
    ∀ block ∈ blocks, block.ends ≠ [] := by
  induction h with
  | start => simp
  | nodes _ _ ih => exact ih
  | opens _ _ _ _ ih => exact List.forall_mem_cons.2 ⟨by simp, ih⟩
  | divides _ _ _ _ _ _ ih => exact List.forall_mem_cons.2 ⟨by simp, ih⟩

theorem awaited_eq_nil_iff (h : Arrives libraries builtins read heads blocks tags) :
    awaited blocks = [] ↔ blocks = [] := by
  cases blocks with
  | nil => simp [awaited]
  | cons block outer =>
    simpa [awaited] using h.ends_ne_nil block List.mem_cons_self

/-- The tags that opened blocks so far are lexemes that were read, in the order of the source. -/
theorem heads_sublist (h : Arrives libraries builtins read heads blocks tags) :
    (heads.map Head.lexeme).Sublist read ∧
      ∀ head ∈ heads, head.lexeme.token = .block head.tag := by
  induction h with
  | start => exact ⟨.slnil, List.forall_mem_nil _⟩
  | nodes _ derives ih =>
    rw [List.map_append]
    exact ⟨ih.1.append derives.heads_sublist.1,
      List.forall_mem_append.2 ⟨ih.2, derives.heads_sublist.2⟩⟩
  | opens _ opens _ _ ih =>
    rw [List.map_append]
    exact ⟨ih.1.append (.refl _),
      List.forall_mem_append.2 ⟨ih.2, List.forall_mem_singleton.2 opens.token⟩⟩
  | divides _ opens _ _ first _ ih =>
    rw [List.map_append, List.map_cons]
    obtain ⟨sublist, tokens⟩ := first.heads_sublist
    exact ⟨ih.1.append ((sublist.trans (List.sublist_append_left _ _)).cons_cons _),
      List.forall_mem_append.2 ⟨ih.2, List.forall_mem_cons.2 ⟨opens.token, tokens⟩⟩⟩

/-- What is awaited inside a block ends a part of it. -/
theorem ends_subset (h : Arrives libraries builtins read heads blocks tags) :
    ∀ block ∈ blocks, block.ends ⊆ block.head.binding.ends := by
  induction h with
  | start => exact List.forall_mem_nil _
  | nodes _ _ ih => exact ih
  | opens _ _ form _ ih =>
    refine List.forall_mem_cons.2 ⟨?_, ih⟩
    rw [Binding.ends, form]
    exact List.Subset.refl _
  | divides _ _ form _ _ _ ih =>
    refine List.forall_mem_cons.2 ⟨?_, ih⟩
    rw [Binding.ends, form]
    exact List.subset_append_right _ _

/-- An open block was opened by a tag that was read. -/
theorem head_mem (h : Arrives libraries builtins read heads blocks tags) :
    ∀ block ∈ blocks, block.head ∈ heads := by
  induction h with
  | start => exact List.forall_mem_nil _
  | nodes _ _ ih => exact fun block hb => List.mem_append_left _ (ih block hb)
  | opens _ _ _ _ ih =>
    exact List.forall_mem_cons.2
      ⟨List.mem_concat_self, fun block hb => List.mem_append_left _ (ih block hb)⟩
  | divides _ _ _ _ _ _ ih =>
    exact List.forall_mem_cons.2 ⟨List.mem_append_right _ List.mem_cons_self,
      fun block hb => List.mem_append_left _ (ih block hb)⟩

end Arrives

/-! ## Places inside a derivation -/

/-- A tag that makes a node has nothing wrong with itself. -/
theorem Builds.header {b : Binding} {tag : Tag} {first second : List Node} {node : Node}
    (h : Builds b tag first second node) : b.header tag = .ok () := by
  cases h with
  | conditional header | loop header | slot header | slotOutput header | inline header
  | block header =>
    rw [Binding.header, header]
    rfl
  | plain => rfl

/-- A parser comes to the place behind some lexemes. -/
def Reached (libraries : Dict Library) (builtins : Dict Binding) (read : List Lexeme) : Prop :=
  ∃ heads blocks tags, Arrives libraries builtins read heads blocks tags

section

variable {libraries : Dict Library} {builtins tags tags₁ tags' : Dict Binding}
  {read₀ read rest : List Lexeme} {heads₀ : List Head} {blocks : List OpenBlock} {d : Derivation}
  {ns : List Node}

theorem Arrives.reached (h : Arrives libraries builtins read heads₀ blocks tags) :
    Reached libraries builtins read := ⟨_, _, _, h⟩

/-- A parser that comes to all places behind one more lexeme comes to all places behind it. -/
theorem Arrives.reached_behind (before : Arrives libraries builtins read₀ heads₀ blocks tags)
    {l : Lexeme} {ls : List Lexeme} {ends : List String} (awaits : ends = awaited blocks)
    (one : Derives libraries ends tags d ns tags₁) (alone : d.lexemes = [l])
    (later : ∀ {heads read rest}, Arrives libraries builtins (read₀ ++ [l]) heads blocks tags₁ →
      ls = read ++ rest → Reached libraries builtins (read₀ ++ [l] ++ read))
    (split : l :: ls = read ++ rest) : Reached libraries builtins (read₀ ++ read) := by
  rcases read with _ | ⟨l', read⟩
  · rw [List.append_nil]
    exact before.reached
  · obtain ⟨rfl, split'⟩ := List.cons.inj split
    rw [List.append_cons]
    exact later (alone ▸ before.nodes (awaits ▸ one)) split'

/-- A parser comes to every place inside a source that has a derivation. -/
theorem Derives.reached {ends : List String} (h : Derives libraries ends tags d ns tags')
    (before : Arrives libraries builtins read₀ heads₀ blocks tags) (awaits : ends = awaited blocks)
    (split : d.lexemes = read ++ rest) : Reached libraries builtins (read₀ ++ read) := by
  induction h generalizing read₀ heads₀ blocks read rest with
  | nil =>
    obtain ⟨rfl, -⟩ := List.append_eq_nil_iff.1 split.symm
    rw [List.append_nil]
    exact before.reached
  | text token _ ih =>
    exact before.reached_behind awaits (.text token .nil) rfl (fun h => ih h awaits) split
  | output token valid _ ih =>
    exact before.reached_behind awaits (.output token valid .nil) rfl (fun h => ih h awaits) split
  | load opens load named loads _ ih =>
    exact before.reached_behind awaits (.load opens load named loads .nil) rfl
      (fun h => ih h awaits) split
  | single opens form builds _ ih =>
    exact before.reached_behind awaits (.single opens form builds .nil) rfl
      (fun h => ih h awaits) split
  | block opens form content closes builds _ ihc ih =>
    subst awaits
    rcases read with _ | ⟨l, read⟩
    · rw [List.append_nil]
      exact before.reached
    obtain ⟨rfl, split₁⟩ := List.cons.inj split
    have inside := before.opens opens form builds.header
    have whole := before.nodes (.block opens form content closes builds .nil)
    rw [List.append_cons]
    obtain ⟨x, rfl, behind⟩ | ⟨x, here, -⟩ := List.append_eq_append_iff.1 split₁
    · rcases x with _ | ⟨l', x⟩
      · simpa using ihc inside rfl (List.append_nil _).symm
      · obtain ⟨rfl, split₂⟩ := List.cons.inj behind
        simpa [Derivation.lexemes] using ih whole rfl split₂
    · exact ihc inside rfl here
  | divided opens form content divides more closes builds _ ihc ihm ih =>
    subst awaits
    rcases read with _ | ⟨l, read⟩
    · rw [List.append_nil]
      exact before.reached
    obtain ⟨rfl, split₁⟩ := List.cons.inj split
    have inside := before.opens opens form builds.header
    have second := before.divides opens form builds.header content divides
    have whole := before.nodes (.divided opens form content divides more closes builds .nil)
    rw [List.append_cons]
    obtain ⟨x, rfl, behind⟩ | ⟨x, here, -⟩ := List.append_eq_append_iff.1 split₁
    · rcases x with _ | ⟨l', x⟩
      · simpa using ihc inside rfl (List.append_nil _).symm
      obtain ⟨rfl, split₂⟩ := List.cons.inj behind
      obtain ⟨y, rfl, behind'⟩ | ⟨y, here, -⟩ := List.append_eq_append_iff.1 split₂
      · rcases y with _ | ⟨l'', y⟩
        · simpa using ihm second rfl (List.append_nil _).symm
        · obtain ⟨rfl, split₃⟩ := List.cons.inj behind'
          simpa [Derivation.lexemes] using ih whole rfl split₃
      · simpa using ihm second rfl here
    · exact ihc inside rfl here

end

end SlotTemplate
