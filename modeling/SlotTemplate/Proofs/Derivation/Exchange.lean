import SlotTemplate.Proofs.Derivation.Resolution
import SlotTemplate.Proofs.Derivation.Restatement

/-!
# One part of a source in place of another

Where a part of a source is exchanged for another one that stands for nodes with the same image, the
whole source does, too: all that follows moves to other places, and the blocks around the part are
built of their new parts.

* `Compares`: an image of nodes that does not show where they stand and goes by the parts of blocks;
* `Exchange`: two ways to go on at a place, with nodes that have the same image;
* `Arrives.exchange`: an exchange at a place is one of the whole source.
-/

namespace SlotTemplate

open Markup

/-- An image of nodes that is the same for lexemes that say the same. A block with a binding in play
has the same image if it is built of parts that have. -/
structure Compares (f : Node → Node) (P : Binding → Prop) : Prop where
  restate {libraries : Dict Library} {ends : List String} {tags tags' : Dict Binding}
    {d : Derivation} {ns : List Node} {ls : List Lexeme}
    (derives : Derives libraries ends tags d ns tags') (same : SameTokens d.lexemes ls) :
    ∃ d' ns', ls = d'.lexemes ∧ Derives libraries ends tags d' ns' tags' ∧ ns.map f = ns'.map f
  rebuild {b : Binding} {tag : Tag} {first first' second second' : List Node} {node : Node}
    (inPlay : P b) (builds : Builds b tag first second node) (one : first.map f = first'.map f)
    (two : second.map f = second'.map f) :
    ∃ node', Builds b tag first' second' node' ∧ f node = f node'

variable {f : Node → Node} {P : Binding → Prop}

/-- Lexemes behind the tag that ends a block stand for nodes with the same image, too. -/
theorem Compares.restate_behind (h : Compares f P) {libraries : Dict Library} {ends : List String}
    {tags tags' : Dict Binding} {d : Derivation} {ns : List Node} {closing : Lexeme}
    {last : String} {rest ls : List Lexeme} (derives : Derives libraries ends tags d ns tags')
    (closes : closing.Named last) (same : SameTokens (closing :: (d.lexemes ++ rest)) ls) :
    ∃ closing' d' ns' rest', ls = closing' :: (d'.lexemes ++ rest') ∧ closing'.Named last ∧
      Derives libraries ends tags d' ns' tags' ∧ ns.map f = ns'.map f ∧ SameTokens rest rest' := by
  obtain ⟨closing', _, rfl, closed, behind⟩ := same.cons_inv
  obtain ⟨_, rest', rfl, there, left⟩ := behind.append_inv
  obtain ⟨d', ns', rfl, derives', alike⟩ := h.restate derives there
  exact ⟨closing', d', ns', rest', rfl, closes.of_same closed, derives', alike, left⟩

/-- Where the tags `ends` are awaited and `tags` are bound, the lexemes `ls` and `ls'` go on with
nodes that have the same image, and say the same behind them. -/
def Exchange (f : Node → Node) (libraries : Dict Library) (ends : List String)
    (tags : Dict Binding) (ls ls' : List Lexeme) : Prop :=
  ∃ d ns d' ns' tags' rest rest', ls = d.lexemes ++ rest ∧ ls' = d'.lexemes ++ rest' ∧
    Derives libraries ends tags d ns tags' ∧ Derives libraries ends tags d' ns' tags' ∧
    ns.map f = ns'.map f ∧ Stops ends rest ∧ SameTokens rest rest'

section

variable {libraries : Dict Library} {ends : List String} {builtins tags tags' : Dict Binding}
  {ls ls' : List Lexeme}

/-- An exchange behind nodes. -/
theorem Exchange.behind {d : Derivation} {ns : List Node}
    (h : Exchange f libraries ends tags' ls ls')
    (derives : Derives libraries ends tags d ns tags') :
    Exchange f libraries ends tags (d.lexemes ++ ls) (d.lexemes ++ ls') := by
  obtain ⟨d₁, ns₁, d₂, ns₂, tags₂, rest, rest', rfl, rfl, one, two, alike, stops, same⟩ := h
  refine ⟨d.append d₁, ns ++ ns₁, d.append d₂, ns ++ ns₂, tags₂, rest, rest', ?_, ?_,
    derives.append one, derives.append two, ?_, stops, same⟩
  · rw [Derivation.lexemes_append, List.append_assoc]
  · rw [Derivation.lexemes_append, List.append_assoc]
  · rw [List.map_append, List.map_append, alike]

/-- What the lexemes `ls` go on with is what an exchange of them goes on with. -/
theorem Exchange.unique {d : Derivation} {ns : List Node} {rest : List Lexeme}
    (h : Exchange f libraries ends tags (d.lexemes ++ rest) ls')
    (derives : Derives libraries ends tags d ns tags') (stops : Stops ends rest) :
    ∃ d' ns' rest', ls' = d'.lexemes ++ rest' ∧ Derives libraries ends tags d' ns' tags' ∧
      ns.map f = ns'.map f ∧ SameTokens rest rest' := by
  obtain ⟨d₁, ns₁, d', ns', tags₁, rest₁, rest', e, rfl, one, two, alike, stops₁, same⟩ := h
  obtain ⟨rfl, rfl, rfl, rfl⟩ := derives.unique one e stops stops₁
  exact ⟨d', ns', rest', rfl, two, alike, same⟩

variable (compares : Compares f P)

include compares

/-- An exchange at the start of the block that a tag opens. -/
theorem Exchange.opened {head : Head} {middle? : Option String} {last : String} {d : Derivation}
    {ns : List Node} {rest : List Lexeme}
    (h : Exchange f libraries (middle?.toList ++ [last]) tags ls ls') (inPlay : P head.binding)
    (opens : head.Opens ends tags) (form : head.binding.form = .block middle? last)
    (derives : Derives libraries ends tags d ns tags')
    (split : head.lexeme :: ls = d.lexemes ++ rest) (stops : Stops ends rest) :
    Exchange f libraries ends tags (head.lexeme :: ls) (head.lexeme :: ls') := by
  obtain ⟨inner, closing, d₁, body, node, ns₁, tags₁, rfl, rfl, content, closes, builds, more,
      rfl⟩ |
    ⟨middle, first, dividing, second, closing, d₁, left, right, node, ns₁, tags₁, tags₂, rfl, rfl,
      rfl, content, divides, content', closes, builds, more, rfl⟩ :=
    derives.block_inv opens form split stops
  · obtain ⟨inner', body', _, rfl, derives', alike, same⟩ :=
      h.unique content (.tag closes (by simp))
    obtain ⟨closing', d', ns', rest', rfl, closes', more', alike', left⟩ :=
      compares.restate_behind more closes same
    obtain ⟨node', builds', e⟩ := compares.rebuild inPlay builds alike rfl
    refine ⟨_, _, .block head inner' closing' d', node' :: ns', tags', rest, rest', split, ?_,
      derives, .block opens form derives' closes' builds' more', ?_, stops, left⟩
    · simp [Derivation.lexemes]
    · rw [List.map_cons, List.map_cons, alike', e]
  · obtain ⟨first', left', _, rfl, derives', alike, same⟩ :=
      h.unique content (.tag divides (by simp))
    obtain ⟨dividing', second', right', _, rfl, divides', content'', alike'', behind⟩ :=
      compares.restate_behind content' divides same
    obtain ⟨closing', d', ns', rest', rfl, closes', more', alike', left⟩ :=
      compares.restate_behind more closes behind
    obtain ⟨node', builds', e⟩ := compares.rebuild inPlay builds alike alike''
    refine ⟨_, _, .divided head first' dividing' second' closing' d', node' :: ns', tags', rest,
      rest', split, ?_, derives,
      .divided opens form derives' divides' content'' closes' builds' more', ?_, stops, left⟩
    · simp [Derivation.lexemes]
    · rw [List.map_cons, List.map_cons, alike', e]

/-- An exchange behind the tag that divides the block of another tag. -/
theorem Exchange.divided {head : Head} {middle last : String} {first d : Derivation}
    {left ns : List Node} {dividing : Lexeme} {tags₁ : Dict Binding} {rest : List Lexeme}
    (h : Exchange f libraries [last] tags₁ ls ls') (inPlay : P head.binding)
    (opens : head.Opens ends tags) (form : head.binding.form = .block (some middle) last)
    (content : Derives libraries [middle, last] tags first left tags₁)
    (divides : dividing.Named middle) (derives : Derives libraries ends tags d ns tags')
    (split : head.lexeme :: (first.lexemes ++ dividing :: ls) = d.lexemes ++ rest)
    (stops : Stops ends rest) :
    Exchange f libraries ends tags (head.lexeme :: (first.lexemes ++ dividing :: ls))
      (head.lexeme :: (first.lexemes ++ dividing :: ls')) := by
  obtain ⟨second, closing, d₁, right, node, ns₁, tags₂, rfl, rfl, content', closes, builds, more,
    rfl⟩ := derives.divided_inv opens form split stops content divides
  obtain ⟨second', right', _, rfl, content'', alike, same⟩ :=
    h.unique content' (.tag closes (by simp))
  obtain ⟨closing', d', ns', rest', rfl, closes', more', alike', left⟩ :=
    compares.restate_behind more closes same
  obtain ⟨node', builds', e⟩ := compares.rebuild inPlay builds rfl alike
  refine ⟨_, _, .divided head first dividing second' closing' d', node' :: ns', tags', rest, rest',
    split, ?_, derives, .divided opens form content divides content'' closes' builds' more', ?_,
    stops, left⟩
  · simp [Derivation.lexemes]
  · rw [List.map_cons, List.map_cons, alike', e]

/-- An exchange at a place that a parser comes to is an exchange of the whole source. -/
theorem Arrives.exchange {read : List Lexeme} {heads : List Head} {blocks : List OpenBlock}
    {d : Derivation} {ns : List Node} (h : Arrives libraries builtins read heads blocks tags)
    (inPlay : ∀ block ∈ blocks, P block.head.binding)
    (whole : Derives libraries [] builtins d ns tags') (split : d.lexemes = read ++ ls)
    (here : Exchange f libraries (awaited blocks) tags ls ls') :
    ∃ d' ns', d'.lexemes = read ++ ls' ∧ Derives libraries [] builtins d' ns' tags' ∧
      ns.map f = ns'.map f := by
  induction h generalizing ls ls' with
  | start =>
    rw [List.nil_append, ← List.append_nil d.lexemes] at split
    obtain ⟨d', ns', rest', rfl, derives, alike, same⟩ := (split ▸ here).unique whole .source
    rw [same.nil_inv]
    exact ⟨d', ns', by simp, derives, alike⟩
  | nodes _ derives ih =>
    rw [List.append_assoc] at split ⊢
    exact ih inPlay split (here.behind derives)
  | opens before opens form _ ih =>
    obtain ⟨this, others⟩ := List.forall_mem_cons.1 inPlay
    rw [List.append_assoc, List.singleton_append] at split ⊢
    obtain ⟨_, _, _, _, next, derives, stops, -⟩ := before.heads_isPrefix whole split
    exact ih others split (here.opened compares this opens form derives next stops)
  | divides before opens form _ first named ih =>
    obtain ⟨this, others⟩ := List.forall_mem_cons.1 inPlay
    rw [List.append_assoc, List.cons_append, List.append_assoc, List.singleton_append] at split ⊢
    obtain ⟨_, _, _, _, next, derives, stops, -⟩ := before.heads_isPrefix whole split
    exact ih others split (here.divided compares this opens form first named derives next stops)

end

end SlotTemplate
