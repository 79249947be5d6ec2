import SlotTemplate.Proofs.Derivation.Failing
import SlotTemplate.Proofs.Dict

/-!
# What a tag is bound to

The table of tags changes while a source is read: a `load` tag binds the tags of libraries, wherever
it stands, and a block that closes does not undo that. So a tag is bound to what the `load` tags
before it say, read one after another, and no more than that.

* `resolve`: the binding of a name behind `load` tags that name libraries;
* `Arrives.resolved`: at every place the table says of each name what it resolves to there, and the
  tags before it were compiled by what their names resolve to;
* `Arrives.heads_isPrefix`: a source that is accepted is derived from what a parser meets in it.
-/

namespace SlotTemplate

open Markup

/-- The libraries that a tag makes available, if it is a `load` tag. -/
def Head.loads (h : Head) : List String :=
  match h.binding with
  | .load => h.tag.words.tail
  | _ => []

/-- The binding of a name behind `load` tags that name the libraries `loaded`: that of the last one
that binds the name, or else the builtin one. -/
def resolve (libraries : Dict Library) (builtins : Dict Binding) (loaded : List String)
    (name : String) : Option Binding :=
  (loaded.reverse.findSome? fun l => (libraries.get? l).bind (·.binding? name)).or
    (builtins.get? name)

/-- Each tag is compiled by what its name resolves to behind the libraries that are named before
it, `loaded` in front. -/
def Resolved (libraries : Dict Library) (builtins : Dict Binding) : List String → List Head → Prop
  | _, [] => True
  | loaded, h :: hs => resolve libraries builtins loaded h.tag.name = some h.binding ∧
      Resolved libraries builtins (loaded ++ h.loads) hs

/-- The table says of each name what it resolves to. -/
def Says (libraries : Dict Library) (builtins : Dict Binding) (loaded : List String)
    (tags : Dict Binding) : Prop :=
  ∀ name, tags.get? name = resolve libraries builtins loaded name

section

variable {libraries : Dict Library} {builtins tags tags' : Dict Binding} {loaded : List String}
  {ends : List String}

theorem resolved_append {hs hs' : List Head} :
    Resolved libraries builtins loaded (hs ++ hs') ↔
      Resolved libraries builtins loaded hs ∧
        Resolved libraries builtins (loaded ++ hs.flatMap Head.loads) hs' := by
  induction hs generalizing loaded with
  | nil => simp [Resolved]
  | cons h hs ih =>
    rw [List.cons_append, Resolved, Resolved, ih, List.flatMap_cons, List.append_assoc, and_assoc]

theorem Head.loads_of_form {h : Head} {middle? : Option String} {last : String}
    (form : h.binding.form = .block middle? last) : h.loads = [] := by
  unfold loads
  split
  · rename_i load
    rw [load] at form
    cases form
  · rfl

/-- Libraries that are loaded one after another go over each other. -/
theorem Loads.resolved {names : List String} (h : Loads libraries names tags tags')
    (ordered : libraries.All fun l => l.tags.Ordered) (ht : Says libraries builtins loaded tags) :
    Says libraries builtins (loaded ++ names) tags' := by
  induction h generalizing loaded with
  | nil =>
    rw [List.append_nil]
    exact ht
  | @cons name names library tags tags' found rest ih =>
    rw [List.append_cons]
    refine ih fun other => ?_
    have here := (ordered.get? found).get?_insertAll (d := tags) (k := other)
    have bound : (libraries.get? name).bind (·.binding? other) = library.tags.get? other := by
      rw [found]
      rfl
    rw [here, ht other, resolve, resolve, List.reverse_append, List.reverse_singleton,
      List.singleton_append, List.findSome?_cons, bound]
    cases library.tags.get? other <;> rfl

/-- The table behind a derivation, and what compiled its tags. -/
theorem Derives.resolved {d : Derivation} {ns : List Node}
    (h : Derives libraries ends tags d ns tags')
    (ordered : libraries.All fun l => l.tags.Ordered) (ht : Says libraries builtins loaded tags) :
    Resolved libraries builtins loaded d.heads ∧
      Says libraries builtins (loaded ++ d.heads.flatMap Head.loads) tags' := by
  have bound {head : Head} {loaded : List String} {tags : Dict Binding} {ends : List String}
      (opens : head.Opens ends tags) (ht : Says libraries builtins loaded tags) :
      resolve libraries builtins loaded head.tag.name = some head.binding :=
    (ht head.tag.name).symm.trans opens.bound
  -- a tag that loads nothing leaves the table as it is
  have behind {head : Head} {loaded : List String} {tags : Dict Binding} (names : head.loads = [])
      (ht : Says libraries builtins loaded tags) :
      Says libraries builtins (loaded ++ head.loads) tags := by
    rw [names, List.append_nil]
    exact ht
  induction h generalizing loaded with
  | nil => exact ⟨trivial, by simpa [Derivation.heads] using ht⟩
  | text _ _ ih | output _ _ _ ih => exact ih ht
  | @load ends tags tags₁ tags' head d ns opens load named loads rest ih =>
    have names : head.loads = head.tag.words.tail := by rw [Head.loads, load]
    obtain ⟨resolved, table⟩ := ih (names ▸ loads.resolved ordered ht)
    refine ⟨⟨bound opens ht, resolved⟩, ?_⟩
    simpa only [Derivation.heads, List.flatMap_cons, List.append_assoc] using table
  | @single ends tags tags' head d node ns opens form builds rest ih =>
    have names : head.loads = [] := by
      unfold Head.loads
      split
      · rename_i load
        rw [load] at builds
        cases builds
      · rfl
    obtain ⟨resolved, table⟩ := ih (behind names ht)
    refine ⟨⟨bound opens ht, resolved⟩, ?_⟩
    simpa only [Derivation.heads, List.flatMap_cons, List.append_assoc] using table
  | @block ends tags tags₁ tags' head middle? last closing inner d body node ns opens form _ _ _ _
      ihc ih =>
    have names := Head.loads_of_form form
    obtain ⟨first, table⟩ := ihc (behind names ht)
    obtain ⟨resolved, table⟩ := ih table
    refine ⟨⟨bound opens ht, resolved_append.2 ⟨first, resolved⟩⟩, ?_⟩
    simpa only [Derivation.heads, List.flatMap_cons, List.flatMap_append, List.append_assoc]
      using table
  | @divided ends tags tags₁ tags₂ tags' head middle last dividing closing first second d left right
      node ns opens form _ _ _ _ _ _ ihc ihm ih =>
    have names := Head.loads_of_form form
    obtain ⟨one, table⟩ := ihc (behind names ht)
    obtain ⟨two, table⟩ := ihm table
    obtain ⟨resolved, table⟩ := ih table
    refine ⟨⟨bound opens ht, resolved_append.2 ⟨one, resolved_append.2 ⟨two, resolved⟩⟩⟩, ?_⟩
    simpa only [Derivation.heads, List.flatMap_cons, List.flatMap_append, List.append_assoc]
      using table

variable {read rest : List Lexeme} {heads : List Head} {blocks : List OpenBlock}

/-- The table at a place that a parser comes to, and what compiled the tags before it. -/
theorem Arrives.resolved (h : Arrives libraries builtins read heads blocks tags)
    (ordered : libraries.All fun l => l.tags.Ordered) :
    Resolved libraries builtins [] heads ∧
      Says libraries builtins (heads.flatMap Head.loads) tags := by
  induction h with
  | start => exact ⟨trivial, fun name => rfl⟩
  | nodes _ derives ih =>
    obtain ⟨before, table⟩ := ih
    obtain ⟨here, table⟩ := derives.resolved ordered table
    rw [List.flatMap_append]
    exact ⟨resolved_append.2 ⟨before, here⟩, table⟩
  | @opens read heads blocks tags head _ _ _ opens form _ ih =>
    obtain ⟨before, table⟩ := ih
    have names := Head.loads_of_form form
    have bound := (table head.tag.name).symm.trans opens.bound
    rw [List.flatMap_append, List.flatMap_singleton, names, List.append_nil]
    exact ⟨resolved_append.2 ⟨before, bound, trivial⟩, table⟩
  | @divides read heads blocks tags tags' head _ _ d _ _ _ opens form _ first _ ih =>
    obtain ⟨before, table⟩ := ih
    have names := Head.loads_of_form form
    have bound := (table head.tag.name).symm.trans opens.bound
    obtain ⟨inside, table⟩ := first.resolved ordered table
    rw [List.flatMap_append, List.flatMap_cons, names, List.nil_append]
    refine ⟨resolved_append.2 ⟨before, bound, ?_⟩, table⟩
    rw [names, List.append_nil]
    exact inside

/-! ## Tags that always mean the same -/

section

variable {name : String} {b? : Option Binding}
  (same : ∀ l ∈ libraries.values, ∀ p ∈ l.tags.entries, p.1 = name → some p.2 = b?)

include same

theorem Loads.get?_eq {names : List String} (h : Loads libraries names tags tags')
    (bound : tags.get? name = b?) : tags'.get? name = b? := by
  induction h with
  | nil => exact bound
  | cons found _ ih =>
    exact ih (Dict.get?_insertAll_of_same (same _ (Dict.mem_values_of_find? found)) bound)

theorem Derives.get?_eq {d : Derivation} {ns : List Node}
    (h : Derives libraries ends tags d ns tags') (bound : tags.get? name = b?) :
    tags'.get? name = b? := by
  induction h with
  | nil => exact bound
  | text _ _ ih | output _ _ _ ih | single _ _ _ _ ih => exact ih bound
  | load _ _ _ loads _ ih => exact ih (loads.get?_eq same bound)
  | block _ _ _ _ _ _ ihc ih => exact ih (ihc bound)
  | divided _ _ _ _ _ _ _ _ ihc ihm ih => exact ih (ihm (ihc bound))

/-- A tag that the libraries do not bind otherwise keeps its builtin binding, or stays unbound. -/
theorem Arrives.get?_eq (h : Arrives libraries builtins read heads blocks tags)
    (bound : builtins.get? name = b?) : tags.get? name = b? := by
  induction h with
  | start => exact bound
  | nodes _ derives ih => exact derives.get?_eq same ih
  | opens _ _ _ _ ih => exact ih
  | divides _ _ _ _ first _ ih => exact first.get?_eq same ih

end

/-! ## What is met in a source that is accepted -/

/-- Nodes that have a derivation go on, behind a derivation of a first part, with one of the
rest. -/
theorem Derives.behind {d d₀ : Derivation} {ns ns₀ : List Node} {tags₁ : Dict Binding}
    {left : List Lexeme} (h : Derives libraries ends tags d ns tags') (stops : Stops ends left)
    (h₀ : Derives libraries ends tags d₀ ns₀ tags₁)
    (split : d.lexemes ++ left = d₀.lexemes ++ rest) :
    ∃ d₁ ns₁, Derives libraries ends tags₁ d₁ ns₁ tags' ∧ rest = d₁.lexemes ++ left ∧
      d = d₀.append d₁ := by
  let p : Parser := ⟨[], d.lexemes ++ left, tags, libraries, []⟩
  have gives := Parser.gives_of_derives (p := p) h stops rfl rfl rfl
  cases result : ((p.resume rest tags₁).parseUntil ends).1 with
  | error e =>
    have fails := Parser.fails_of_derives (p := p) h₀ rfl rfl split result
    cases fails.symm.trans gives.1
  | ok ns₁ =>
    obtain ⟨d₁, tags₂, left', h₁, pending, stops', -⟩ := Parser.derived_of_gives ⟨result, rfl⟩
    obtain rfl : rest = d₁.lexemes ++ left' := pending
    have e : (d₀.append d₁).lexemes ++ left' = d.lexemes ++ left := by
      rw [Derivation.lexemes_append, List.append_assoc]
      exact split.symm
    obtain ⟨rfl, -, rfl, rfl⟩ := (h₀.append h₁).unique h e stops' stops
    exact ⟨d₁, ns₁, h₁, rfl, rfl⟩

/-- From a place inside a source that has a derivation, the source goes on with a derivation up to
where the innermost open block ends, and what was compiled before the place belongs to it. -/
theorem Arrives.heads_isPrefix {d : Derivation} {ns : List Node}
    (h : Arrives libraries builtins read heads blocks tags)
    (whole : Derives libraries [] builtins d ns tags') (split : d.lexemes = read ++ rest) :
    ∃ d' ns' tags'' left, rest = d'.lexemes ++ left ∧
      Derives libraries (awaited blocks) tags d' ns' tags'' ∧ Stops (awaited blocks) left ∧
      heads ++ d'.heads <+: d.heads := by
  induction h generalizing rest with
  | start => exact ⟨d, ns, tags', [], by simpa using split.symm, whole, .source, by simp⟩
  | nodes _ derives ih =>
    rw [List.append_assoc] at split
    obtain ⟨d', ns', tags'', left, next, derives', stops, isPrefix⟩ := ih split
    obtain ⟨d₁, ns₁, derives₁, rfl, rfl⟩ := derives'.behind stops derives next.symm
    rw [Derivation.heads_append, ← List.append_assoc] at isPrefix
    exact ⟨d₁, ns₁, tags'', left, rfl, derives₁, stops, isPrefix⟩
  | @opens read heads blocks tags head middle? last _ opens form header ih =>
    rw [List.append_assoc, List.singleton_append] at split
    obtain ⟨d', ns', tags'', left, next, derives, stops, isPrefix⟩ := ih split
    obtain ⟨inner, closing, d₁, body, _, _, tags₁, rfl, rfl, content, closes, -, -, rfl⟩ |
      ⟨middle, first, dividing, second, closing, d₁, body, _, _, _, tags₁, _, rfl, rfl, rfl,
        content, divides, -, -, -, -, rfl⟩ := derives.block_inv opens form next stops
    · refine ⟨inner, body, tags₁, _, rfl, content, .tag closes (by simp [awaited]), ?_⟩
      refine List.IsPrefix.trans ?_ isPrefix
      simp [Derivation.heads]
    · refine ⟨first, body, tags₁, _, rfl, content, .tag divides (by simp [awaited]), ?_⟩
      refine List.IsPrefix.trans ?_ isPrefix
      simp [Derivation.heads]
  | @divides read heads blocks tags tags₁ head middle last d₀ _ dividing _ opens form header first
      named ih =>
    rw [List.append_assoc, List.cons_append, List.append_assoc, List.singleton_append] at split
    obtain ⟨d', ns', tags'', left, next, derives, stops, isPrefix⟩ := ih split
    obtain ⟨second, closing, d₁, right, _, _, tags₂, rfl, rfl, more, closes, -, -, rfl⟩ :=
      derives.divided_inv opens form next stops first named
    refine ⟨second, right, tags₂, _, rfl, more, .tag closes (by simp [awaited]), ?_⟩
    refine List.IsPrefix.trans ?_ isPrefix
    simp [Derivation.heads]

/-- A tag that a parser meets in a source that has a derivation is compiled there by what is bound
to its name. -/
theorem Arrives.met_isPrefix {d : Derivation} {ns : List Node} {head : Head}
    (h : Arrives libraries builtins read heads blocks tags)
    (whole : Derives libraries [] builtins d ns tags')
    (split : d.lexemes = read ++ head.lexeme :: rest)
    (opens : head.Opens (awaited blocks) tags) : heads ++ [head] <+: d.heads := by
  obtain ⟨d', ns', tags'', left, next, derives, stops, isPrefix⟩ := h.heads_isPrefix whole split
  have first := derives.head?_eq opens next stops
  refine List.IsPrefix.trans ?_ isPrefix
  cases derives with
  | nil | text | output => cases first
  | load | single | block | divided =>
    cases first
    simp [Derivation.heads]

end

end SlotTemplate
