import SlotTemplate.Parser
import SlotTemplate.Proofs.Tree.Partition

/-!
# The grammar of blocks

A template is a sequence of plain texts, variables and blocks. The name of the tag that opens a
block decides how the block goes on. A derivation is such a sequence with the binding that compiles
each tag, read off the table of tags that is in force where the tag stands.

* `Derives`: the derivations that are in order, with the nodes that they stand for;
* `Derives.unique`: lexemes have one derivation at most;
* `Derives.append`: derivations one behind another stand for the nodes of both;
* `Derives.tags_eq`: without a `load` tag the table stays as it is;
* `Builds.everywhere`, `Derives.everywhere`: what holds of the nodes as they are built holds in the
  whole tree.
-/

namespace SlotTemplate

open Markup

/-- How the block that a tag opens goes on. -/
inductive Form where
  | alone
  /-- Nodes follow up to the tag `last`, in two parts if the tag `middle?` divides them. -/
  | block (middle? : Option String) (last : String)

namespace Binding

def form : Binding → Form
  | .conditional => .block (some "else") "endif"
  | .loop => .block (some "empty") "endfor"
  | .slot => .block none "/slot"
  | .block c => .block none c.closeTag
  | _ => .alone

/-- The tags that end a part of the block that a tag with this binding opens. -/
def ends (b : Binding) : List String :=
  match b.form with
  | .alone => []
  | .block middle? last => middle?.toList ++ [last]

end Binding

/-- The node that a tag and the parts of its block make. -/
inductive Builds : Binding → Tag → List Node → List Node → Node → Prop where
  | conditional {tag : Tag} {c : Condition} {first second : List Node}
      (header : tag.condition = .ok c) :
      Builds .conditional tag first second (.conditional c.negated c.expr first second)
  | loop {tag : Tag} {h : LoopHeader} {body empty : List Node} (header : tag.loopHeader = .ok h) :
      Builds .loop tag body empty (.loop h.variableName h.iterable body empty)
  | slot {tag : Tag} {name : String} {content : List Node} (header : tag.slotName = .ok name) :
      Builds .slot tag content [] (.marker name content tag.span tag.line)
  | slotOutput {tag : Tag} {name : String} (header : tag.slotName = .ok name) :
      Builds .slotOutput tag [] [] (.slotOutput name)
  | inline {c : Component} {tag : Tag} {args : List Argument}
      (header : tag.invocationArguments = .ok args) :
      Builds (.inline c) tag [] [] (.invocation c tag.name args [] tag.span)
  | block {c : Component} {tag : Tag} {args : List Argument} {body : List Node}
      (header : tag.invocationArguments = .ok args)
      (distinct : ((bodySlots body).map Slot.name).Nodup) :
      Builds (.block c) tag body [] (.invocation c tag.name args (bodySlots body) tag.span)
  | plain {output : Option String} {tag : Tag} :
      Builds (.plain output) tag [] [] (output.elim .empty .text)

/-- What holds of a node as it is built, and of all nodes of its block, holds everywhere in it. -/
theorem Builds.everywhere {P : Node → Prop} {b : Binding} {tag : Tag} {first second : List Node}
    {node : Node} (h : Builds b tag first second node) (headOnly : Node.HeadOnly P) (here : P node)
    (inFirst : ∀ n ∈ first, n.Everywhere P) (inSecond : ∀ n ∈ second, n.Everywhere P) :
    node.Everywhere P := by
  cases h with
  | conditional | loop =>
    exact .intro here fun n hn => (List.mem_append.1 hn).elim (inFirst n) (inSecond n)
  | slot => exact .intro here inFirst
  | slotOutput | inline => exact .intro here (by simp [Node.children, Node.parts])
  | block =>
    refine .intro here fun n hn => ?_
    obtain ⟨slot, hslot, hn⟩ := List.mem_flatMap.1 hn
    exact bodySlots_everywhere headOnly inFirst slot hslot n hn
  | @plain output =>
    cases output with
    | none | some => exact .intro here (by simp [Node.children, Node.parts])

/-- The table of tags after libraries are loaded one after another. -/
inductive Loads (libraries : Dict Library) : List String → Dict Binding → Dict Binding → Prop where
  | nil {tags : Dict Binding} : Loads libraries [] tags tags
  | cons {name : String} {names : List String} {library : Library} {tags tags' : Dict Binding}
      (found : libraries.get? name = some library)
      (rest : Loads libraries names (tags.insertAll library.tags.entries) tags') :
      Loads libraries (name :: names) tags tags'

/-- A tag of a source and the binding that compiles it. -/
structure Head where
  lexeme : Lexeme
  tag : Tag
  binding : Binding

/-- A tag opens a block where it is not awaited as an end, by the binding that is in force. -/
structure Head.Opens (h : Head) (ends : List String) (tags : Dict Binding) : Prop where
  token : h.lexeme.token = .block h.tag
  free : h.tag.name ∉ ends
  bound : tags.get? h.tag.name = some h.binding

/-- Whether a lexeme is a tag with a name. -/
def Markup.Lexeme.Named (name : String) (l : Lexeme) : Prop :=
  ∃ tag, l.token = .block tag ∧ tag.name = name

/-- A sequence of texts, variables and blocks. -/
inductive Derivation where
  | nil
  | text (lexeme : Lexeme) (rest : Derivation)
  | output (lexeme : Lexeme) (rest : Derivation)
  | single (head : Head) (rest : Derivation)
  | block (head : Head) (body : Derivation) (closing : Lexeme) (rest : Derivation)
  | divided (head : Head) (first : Derivation) (middle : Lexeme) (second : Derivation)
      (closing : Lexeme) (rest : Derivation)

namespace Derivation

/-- What a derivation is a derivation of. -/
def lexemes : Derivation → List Lexeme
  | .nil => []
  | .text lexeme rest => lexeme :: rest.lexemes
  | .output lexeme rest => lexeme :: rest.lexemes
  | .single head rest => head.lexeme :: rest.lexemes
  | .block head body closing rest =>
    head.lexeme :: (body.lexemes ++ closing :: rest.lexemes)
  | .divided head first middle second closing rest =>
    head.lexeme :: (first.lexemes ++ middle :: (second.lexemes ++ closing :: rest.lexemes))

/-- The tags that open blocks, with their bindings, in the order of the source. -/
def heads : Derivation → List Head
  | .nil => []
  | .text _ rest => rest.heads
  | .output _ rest => rest.heads
  | .single head rest => head :: rest.heads
  | .block head body _ rest => head :: (body.heads ++ rest.heads)
  | .divided head first _ second _ rest => head :: (first.heads ++ (second.heads ++ rest.heads))

/-- The second derivation behind the first one. -/
def append : Derivation → Derivation → Derivation
  | .nil, d => d
  | .text lexeme rest, d => .text lexeme (rest.append d)
  | .output lexeme rest, d => .output lexeme (rest.append d)
  | .single head rest, d => .single head (rest.append d)
  | .block head body closing rest, d => .block head body closing (rest.append d)
  | .divided head first middle second closing rest, d =>
    .divided head first middle second closing (rest.append d)

theorem lexemes_append (d d' : Derivation) :
    (d.append d').lexemes = d.lexemes ++ d'.lexemes := by
  induction d with
  | nil => rfl
  | text _ _ ih | output _ _ ih | single _ _ ih =>
    simp only [append, lexemes, ih, List.cons_append]
  | block _ _ _ _ _ ih | divided _ _ _ _ _ _ _ _ ih =>
    simp only [append, lexemes, ih, List.cons_append, List.append_assoc]

theorem heads_append (d d' : Derivation) : (d.append d').heads = d.heads ++ d'.heads := by
  induction d with
  | nil => rfl
  | text _ _ ih | output _ _ ih | single _ _ ih => simp only [append, heads, ih, List.cons_append]
  | block _ _ _ _ _ ih | divided _ _ _ _ _ _ _ _ ih =>
    simp only [append, heads, ih, List.cons_append, List.append_assoc]

/-- The tag that a derivation starts with, if it starts with one. -/
def head? : Derivation → Option Head
  | .single head _ => some head
  | .block head _ _ _ => some head
  | .divided head _ _ _ _ _ => some head
  | _ => none

end Derivation

/-- `Derives libraries ends tags d nodes tags'`: where the tags `ends` are awaited and `tags` are
bound, `d` stands for `nodes`, and behind it `tags'` are bound. -/
inductive Derives (libraries : Dict Library) :
    List String → Dict Binding → Derivation → List Node → Dict Binding → Prop where
  | nil {ends : List String} {tags : Dict Binding} : Derives libraries ends tags .nil [] tags
  | text {ends : List String} {tags tags' : Dict Binding} {lexeme : Lexeme} {s : String}
      {d : Derivation} {ns : List Node} (token : lexeme.token = .text s)
      (rest : Derives libraries ends tags d ns tags') :
      Derives libraries ends tags (.text lexeme d) (.text s :: ns) tags'
  | output {ends : List String} {tags tags' : Dict Binding} {lexeme : Lexeme}
      {contents : String} {offset : Nat} {e : Expr} {d : Derivation} {ns : List Node}
      (token : lexeme.token = .variable contents offset)
      (valid : Expr.ofVariable contents offset lexeme.line = .ok e)
      (rest : Derives libraries ends tags d ns tags') :
      Derives libraries ends tags (.output lexeme d) (.variable e :: ns) tags'
  | load {ends : List String} {tags tags₁ tags' : Dict Binding} {head : Head} {d : Derivation}
      {ns : List Node} (opens : head.Opens ends tags) (load : head.binding = .load)
      (named : head.tag.words.tail ≠ []) (loads : Loads libraries head.tag.words.tail tags tags₁)
      (rest : Derives libraries ends tags₁ d ns tags') :
      Derives libraries ends tags (.single head d) (.empty :: ns) tags'
  | single {ends : List String} {tags tags' : Dict Binding} {head : Head} {d : Derivation}
      {node : Node} {ns : List Node} (opens : head.Opens ends tags)
      (form : head.binding.form = .alone) (builds : Builds head.binding head.tag [] [] node)
      (rest : Derives libraries ends tags d ns tags') :
      Derives libraries ends tags (.single head d) (node :: ns) tags'
  | block {ends : List String} {tags tags₁ tags' : Dict Binding} {head : Head}
      {middle? : Option String} {last : String} {closing : Lexeme} {inner d : Derivation}
      {body : List Node} {node : Node} {ns : List Node} (opens : head.Opens ends tags)
      (form : head.binding.form = .block middle? last)
      (content : Derives libraries (middle?.toList ++ [last]) tags inner body tags₁)
      (closes : closing.Named last) (builds : Builds head.binding head.tag body [] node)
      (rest : Derives libraries ends tags₁ d ns tags') :
      Derives libraries ends tags (.block head inner closing d) (node :: ns) tags'
  | divided {ends : List String} {tags tags₁ tags₂ tags' : Dict Binding} {head : Head}
      {middle last : String} {dividing closing : Lexeme} {first second d : Derivation}
      {left right : List Node} {node : Node} {ns : List Node} (opens : head.Opens ends tags)
      (form : head.binding.form = .block (some middle) last)
      (content : Derives libraries [middle, last] tags first left tags₁)
      (divides : dividing.Named middle)
      (more : Derives libraries [last] tags₁ second right tags₂) (closes : closing.Named last)
      (builds : Builds head.binding head.tag left right node)
      (rest : Derives libraries ends tags₂ d ns tags') :
      Derives libraries ends tags (.divided head first dividing second closing d) (node :: ns) tags'

/-- Where nodes end: before a tag that is awaited, or with the source if none is. -/
inductive Stops : List String → List Lexeme → Prop where
  | source : Stops [] []
  | tag {ends : List String} {name : String} {lexeme : Lexeme} {rest : List Lexeme}
      (named : lexeme.Named name) (awaited : name ∈ ends) : Stops ends (lexeme :: rest)

namespace Derives

variable {libraries : Dict Library} {ends : List String} {tags tags₁ tags₂ : Dict Binding}

theorem eq_of_loads {names : List String} (h₁ : Loads libraries names tags tags₁)
    (h₂ : Loads libraries names tags tags₂) : tags₁ = tags₂ := by
  induction h₁ with
  | nil => cases h₂; rfl
  | cons found _ ih =>
    cases h₂ with
    | cons found' rest =>
      cases found.symm.trans found'
      exact ih rest

theorem eq_of_builds {b : Binding} {tag : Tag} {first second : List Node} {m n : Node}
    (h₁ : Builds b tag first second m) (h₂ : Builds b tag first second n) : m = n := by
  cases h₁ with
  | conditional h => cases h₂ with | conditional h' => cases h.symm.trans h'; rfl
  | loop h => cases h₂ with | loop h' => cases h.symm.trans h'; rfl
  | slot h => cases h₂ with | slot h' => cases h.symm.trans h'; rfl
  | slotOutput h => cases h₂ with | slotOutput h' => cases h.symm.trans h'; rfl
  | inline h => cases h₂ with | inline h' => cases h.symm.trans h'; rfl
  | block h => cases h₂ with | block h' => cases h.symm.trans h'; rfl
  | plain => cases h₂; rfl

theorem middle_ne_last {b : Binding} {middle last : String}
    (h : b.form = .block (some middle) last) : middle ≠ last := by
  cases b <;> simp only [Binding.form, Form.block.injEq, Option.some.injEq, reduceCtorEq,
    false_and] at h
  all_goals
    obtain ⟨rfl, rfl⟩ := h
    decide

theorem eq_of_opens {head head' : Head} (h : head.Opens ends tags) (h' : head'.Opens ends tags)
    (e : head.lexeme = head'.lexeme) : head = head' := by
  obtain ⟨lexeme, tag, b⟩ := head
  obtain ⟨lexeme', tag', b'⟩ := head'
  obtain rfl : lexeme = lexeme' := e
  cases h.token.symm.trans h'.token
  cases h.bound.symm.trans h'.bound
  rfl

/-- Nodes do not end where a block opens. -/
theorem not_stops_opens {head : Head} {ls : List Lexeme} (opens : head.Opens ends tags) :
    ¬ Stops ends (head.lexeme :: ls) := by
  intro h
  cases h with
  | tag named awaited =>
    obtain ⟨tag, token, rfl⟩ := named
    cases opens.token.symm.trans token
    exact opens.free awaited

/-- Nodes do not end at what is no tag. -/
theorem not_stops_token {lexeme : Lexeme} {ls : List Lexeme}
    (h : ∀ tag, lexeme.token ≠ .block tag) : ¬ Stops ends (lexeme :: ls) := by
  intro stops
  cases stops with
  | tag named _ =>
    obtain ⟨tag, token, _⟩ := named
    exact h tag token

variable {d : Derivation} {ns : List Node} {ls r : List Lexeme} {lexeme : Lexeme}

theorem text_inv {s : String} (h : Derives libraries ends tags d ns tags₁)
    (token : lexeme.token = .text s) (e : lexeme :: ls = d.lexemes ++ r) (stops : Stops ends r) :
    ∃ d' ns', d = .text lexeme d' ∧ ns = .text s :: ns' ∧
      Derives libraries ends tags d' ns' tags₁ ∧ ls = d'.lexemes ++ r := by
  cases h with
  | nil =>
    rw [Derivation.lexemes, List.nil_append] at e
    exact absurd (e ▸ stops) (not_stops_token (by simp [token]))
  | text token' rest =>
    obtain ⟨rfl, rfl⟩ := List.cons.inj e
    cases token.symm.trans token'
    exact ⟨_, _, rfl, rfl, rest, rfl⟩
  | output token' =>
    obtain ⟨rfl, -⟩ := List.cons.inj e
    cases token.symm.trans token'
  | load opens | single opens | block opens | divided opens =>
    obtain ⟨rfl, -⟩ := List.cons.inj e
    cases token.symm.trans opens.token

theorem output_inv {contents : String} {offset : Nat}
    (h : Derives libraries ends tags d ns tags₁) (token : lexeme.token = .variable contents offset)
    (e : lexeme :: ls = d.lexemes ++ r) (stops : Stops ends r) :
    ∃ d' x ns', d = .output lexeme d' ∧ ns = .variable x :: ns' ∧
      Expr.ofVariable contents offset lexeme.line = .ok x ∧
      Derives libraries ends tags d' ns' tags₁ ∧ ls = d'.lexemes ++ r := by
  cases h with
  | nil =>
    rw [Derivation.lexemes, List.nil_append] at e
    exact absurd (e ▸ stops) (not_stops_token (by simp [token]))
  | text token' =>
    obtain ⟨rfl, -⟩ := List.cons.inj e
    cases token.symm.trans token'
  | output token' valid rest =>
    obtain ⟨rfl, rfl⟩ := List.cons.inj e
    cases token.symm.trans token'
    exact ⟨_, _, _, rfl, rfl, valid, rest, rfl⟩
  | load opens | single opens | block opens | divided opens =>
    obtain ⟨rfl, -⟩ := List.cons.inj e
    cases token.symm.trans opens.token

/-- The tag that opens a block is the head of every derivation of what it starts. -/
theorem head?_eq {head : Head} (h : Derives libraries ends tags d ns tags₁)
    (opens : head.Opens ends tags) (e : head.lexeme :: ls = d.lexemes ++ r)
    (stops : Stops ends r) : d.head? = some head := by
  cases h with
  | nil =>
    rw [Derivation.lexemes, List.nil_append] at e
    exact absurd (e ▸ stops) (not_stops_opens opens)
  | text token | output token =>
    rw [← (List.cons.inj e).1] at token
    cases token.symm.trans opens.token
  | load opens' | single opens' | block opens' | divided opens' =>
    exact congrArg some (eq_of_opens opens' opens (List.cons.inj e).1.symm)

theorem named_eq {name name' : String} (h : lexeme.Named name) (h' : lexeme.Named name') :
    name = name' := by
  obtain ⟨tag, token, rfl⟩ := h
  obtain ⟨tag', token', rfl⟩ := h'
  cases token.symm.trans token'
  rfl

/-- What a tag with a block starts is that block, with or without a tag that divides it. -/
theorem block_inv {head : Head} {middle? : Option String} {last : String}
    (h : Derives libraries ends tags d ns tags₁) (opens : head.Opens ends tags)
    (form : head.binding.form = .block middle? last) (e : head.lexeme :: ls = d.lexemes ++ r)
    (stops : Stops ends r) :
    (∃ inner closing d' body node ns' tags₂, d = .block head inner closing d' ∧ ns = node :: ns' ∧
      Derives libraries (middle?.toList ++ [last]) tags inner body tags₂ ∧ closing.Named last ∧
      Builds head.binding head.tag body [] node ∧ Derives libraries ends tags₂ d' ns' tags₁ ∧
      ls = inner.lexemes ++ closing :: (d'.lexemes ++ r)) ∨
    ∃ middle first dividing second closing d' left right node ns' tags₂ tags₃,
      middle? = some middle ∧ d = .divided head first dividing second closing d' ∧
      ns = node :: ns' ∧ Derives libraries [middle, last] tags first left tags₂ ∧
      dividing.Named middle ∧ Derives libraries [last] tags₂ second right tags₃ ∧
      closing.Named last ∧ Builds head.binding head.tag left right node ∧
      Derives libraries ends tags₃ d' ns' tags₁ ∧
      ls = first.lexemes ++ dividing :: (second.lexemes ++ closing :: (d'.lexemes ++ r)) := by
  have first := h.head?_eq opens e stops
  cases h with
  | nil | text | output => cases first
  | load _ load =>
    cases first
    rw [load] at form
    cases form
  | single _ alone =>
    cases first
    cases form.symm.trans alone
  | block _ form' content closes builds rest =>
    cases first
    cases form.symm.trans form'
    simp only [Derivation.lexemes, List.cons_append, List.append_assoc, List.cons.injEq,
      true_and] at e
    exact .inl ⟨_, _, _, _, _, _, _, rfl, rfl, content, closes, builds, rest, e⟩
  | divided _ form' content divides more closes builds rest =>
    cases first
    cases form.symm.trans form'
    simp only [Derivation.lexemes, List.cons_append, List.append_assoc, List.cons.injEq,
      true_and] at e
    exact .inr ⟨_, _, _, _, _, _, _, _, _, _, _, _, rfl, rfl, rfl, content, divides, more, closes,
      builds, rest, e⟩

/-- The nodes in front of an awaited tag, or of the whole source, have one derivation at most. -/
theorem unique {d' : Derivation} {ns' : List Node} {r' : List Lexeme}
    (h : Derives libraries ends tags d ns tags₁) (h' : Derives libraries ends tags d' ns' tags₂)
    (e : d.lexemes ++ r = d'.lexemes ++ r') (stops : Stops ends r) (stops' : Stops ends r') :
    d = d' ∧ ns = ns' ∧ tags₁ = tags₂ ∧ r = r' := by
  induction h generalizing d' ns' tags₂ r r' with
  | nil =>
    cases h' with
    | nil => exact ⟨rfl, rfl, rfl, e⟩
    | text token | output token =>
      rw [Derivation.lexemes, List.nil_append] at e
      exact absurd (e ▸ stops) (not_stops_token (by simp [token]))
    | load opens | single opens | block opens | divided opens =>
      rw [Derivation.lexemes, List.nil_append] at e
      exact absurd (e ▸ stops) (not_stops_opens opens)
  | text token _ ih =>
    obtain ⟨d₁, ns₁, rfl, rfl, rest, e'⟩ := h'.text_inv token e stops'
    obtain ⟨rfl, rfl, rfl, rfl⟩ := ih rest e' stops stops'
    exact ⟨rfl, rfl, rfl, rfl⟩
  | output token valid _ ih =>
    obtain ⟨d₁, x, ns₁, rfl, rfl, valid', rest, e'⟩ := h'.output_inv token e stops'
    cases valid.symm.trans valid'
    obtain ⟨rfl, rfl, rfl, rfl⟩ := ih rest e' stops stops'
    exact ⟨rfl, rfl, rfl, rfl⟩
  | load opens load named loads _ ih =>
    have first := h'.head?_eq opens e stops'
    cases h' with
    | nil | text | output => cases first
    | load opens' load' named' loads' rest' =>
      cases first
      cases eq_of_loads loads loads'
      obtain ⟨rfl, rfl, rfl, rfl⟩ := ih rest' (List.cons.inj e).2 stops stops'
      exact ⟨rfl, rfl, rfl, rfl⟩
    | single opens' form builds =>
      cases first
      rw [load] at builds
      cases builds
    | block opens' form | divided opens' form =>
      cases first
      rw [load] at form
      cases form
  | single opens form builds _ ih =>
    have first := h'.head?_eq opens e stops'
    cases h' with
    | nil | text | output => cases first
    | load opens' load =>
      cases first
      rw [load] at builds
      cases builds
    | single opens' form' builds' rest' =>
      cases first
      cases eq_of_builds builds builds'
      obtain ⟨rfl, rfl, rfl, rfl⟩ := ih rest' (List.cons.inj e).2 stops stops'
      exact ⟨rfl, rfl, rfl, rfl⟩
    | block opens' form' | divided opens' form' =>
      cases first
      cases form.symm.trans form'
  | block opens form _ closes builds _ ihc ih =>
    simp only [Derivation.lexemes, List.cons_append, List.append_assoc] at e
    obtain ⟨inner, closing, d₁, body, node, ns₁, tags₃, rfl, rfl, content, closes', builds', rest,
        e⟩ | ⟨middle, one, dividing, two, closing, d₁, left, right, node, ns₁, tags₃, tags₄, rfl,
        rfl, rfl, content, divides', -, -, -, -, e⟩ := h'.block_inv opens form e stops'
    · obtain ⟨rfl, rfl, rfl, e₁⟩ := ihc content e (.tag closes (by simp)) (.tag closes' (by simp))
      obtain ⟨rfl, e₂⟩ := List.cons.inj e₁
      cases eq_of_builds builds builds'
      obtain ⟨rfl, rfl, rfl, rfl⟩ := ih rest e₂ stops stops'
      exact ⟨rfl, rfl, rfl, rfl⟩
    · obtain ⟨-, -, -, e₁⟩ := ihc content e (.tag closes (by simp)) (.tag divides' (by simp))
      obtain ⟨rfl, -⟩ := List.cons.inj e₁
      exact absurd (named_eq divides' closes) (middle_ne_last form)
  | divided opens form _ divides _ closes builds _ ihc ihm ih =>
    simp only [Derivation.lexemes, List.cons_append, List.append_assoc] at e
    obtain ⟨inner, closing, d₁, body, node, ns₁, tags₃, rfl, rfl, content, closes', -, -, e⟩ |
      ⟨middle, one, dividing, two, closing, d₁, left, right, node, ns₁, tags₃, tags₄, same, rfl,
        rfl, content, divides', more, closes', builds', rest, e⟩ := h'.block_inv opens form e stops'
    · obtain ⟨-, -, -, e₁⟩ := ihc content e (.tag divides (by simp)) (.tag closes' (by simp))
      obtain ⟨rfl, -⟩ := List.cons.inj e₁
      exact absurd (named_eq divides closes') (middle_ne_last form)
    · cases same
      obtain ⟨rfl, rfl, rfl, e₁⟩ := ihc content e (.tag divides (by simp)) (.tag divides' (by simp))
      obtain ⟨rfl, e₂⟩ := List.cons.inj e₁
      obtain ⟨rfl, rfl, rfl, e₃⟩ := ihm more e₂ (.tag closes (by simp)) (.tag closes' (by simp))
      obtain ⟨rfl, e₄⟩ := List.cons.inj e₃
      cases eq_of_builds builds builds'
      obtain ⟨rfl, rfl, rfl, rfl⟩ := ih rest e₄ stops stops'
      exact ⟨rfl, rfl, rfl, rfl⟩

/-- What a tag with a block starts is a block in two parts, if the tag that divides it follows a
first part. -/
theorem divided_inv {head : Head} {middle last : String} {first : Derivation} {left : List Node}
    {dividing : Lexeme} (h : Derives libraries ends tags d ns tags₁) (opens : head.Opens ends tags)
    (form : head.binding.form = .block (some middle) last)
    (e : head.lexeme :: (first.lexemes ++ dividing :: ls) = d.lexemes ++ r) (stops : Stops ends r)
    (content : Derives libraries [middle, last] tags first left tags₂)
    (divides : dividing.Named middle) :
    ∃ second closing d' right node ns' tags₃, d = .divided head first dividing second closing d' ∧
      ns = node :: ns' ∧ Derives libraries [last] tags₂ second right tags₃ ∧ closing.Named last ∧
      Builds head.binding head.tag left right node ∧ Derives libraries ends tags₃ d' ns' tags₁ ∧
      ls = second.lexemes ++ closing :: (d'.lexemes ++ r) := by
  obtain ⟨inner, closing, d₁, body, node, ns₁, tags₃, rfl, rfl, content', closes, -, -, e₁⟩ |
    ⟨_, one, _, second, closing, d', _, right, node, ns', _, tags₃, same, rfl, rfl, content',
      divides', more, closes, builds, rest, e₁⟩ := h.block_inv opens form e stops
  · obtain ⟨-, -, -, e₂⟩ :=
      content.unique content' e₁ (.tag divides (by simp)) (.tag closes (by simp))
    obtain ⟨rfl, -⟩ := List.cons.inj e₂
    exact absurd (named_eq divides closes) (middle_ne_last form)
  · cases same
    obtain ⟨rfl, rfl, rfl, e₂⟩ :=
      content.unique content' e₁ (.tag divides (by simp)) (.tag divides' (by simp))
    obtain ⟨rfl, e₃⟩ := List.cons.inj e₂
    exact ⟨_, _, _, _, _, _, _, rfl, rfl, more, closes, builds, rest, e₃⟩

/-- Derivations one behind another stand for the nodes of both. -/
theorem append {d' : Derivation} {ns' : List Node}
    (h : Derives libraries ends tags d ns tags₁) (h' : Derives libraries ends tags₁ d' ns' tags₂) :
    Derives libraries ends tags (d.append d') (ns ++ ns') tags₂ := by
  induction h with
  | nil => exact h'
  | text token _ ih => exact .text token (ih h')
  | output token valid _ ih => exact .output token valid (ih h')
  | load opens load named loads _ ih => exact .load opens load named loads (ih h')
  | single opens form builds _ ih => exact .single opens form builds (ih h')
  | block opens form content closes builds _ _ ih =>
    exact .block opens form content closes builds (ih h')
  | divided opens form content divides more closes builds _ _ _ ih =>
    exact .divided opens form content divides more closes builds (ih h')

/-- The tags that open blocks are lexemes of the source, in its order. -/
theorem heads_sublist (h : Derives libraries ends tags d ns tags₁) :
    (d.heads.map Head.lexeme).Sublist d.lexemes ∧
      ∀ head ∈ d.heads, head.lexeme.token = .block head.tag := by
  induction h with
  | nil => exact ⟨.slnil, List.forall_mem_nil _⟩
  | text _ _ ih | output _ _ _ ih => exact ⟨ih.1.cons _, ih.2⟩
  | load opens _ _ _ _ ih | single opens _ _ _ ih =>
    exact ⟨ih.1.cons_cons _, List.forall_mem_cons.2 ⟨opens.token, ih.2⟩⟩
  | block opens _ _ _ _ _ ihc ih =>
    refine ⟨?_, List.forall_mem_cons.2 ⟨opens.token, List.forall_mem_append.2 ⟨ihc.2, ih.2⟩⟩⟩
    rw [Derivation.heads, List.map_cons, List.map_append]
    exact (ihc.1.append (ih.1.cons _)).cons_cons _
  | divided opens _ _ _ _ _ _ _ ihc ihm ih =>
    refine ⟨?_, List.forall_mem_cons.2 ⟨opens.token, List.forall_mem_append.2
      ⟨ihc.2, List.forall_mem_append.2 ⟨ihm.2, ih.2⟩⟩⟩⟩
    rw [Derivation.heads, List.map_cons, List.map_append, List.map_append]
    exact (ihc.1.append ((ihm.1.append (ih.1.cons _)).cons _)).cons_cons _

/-- Without a `load` tag the bound tags stay the same. -/
theorem tags_eq (h : Derives libraries ends tags d ns tags₁)
    (noLoad : ∀ lexeme ∈ d.lexemes, ∀ tag, lexeme.token = .block tag →
      tags.get? tag.name ≠ some .load) : tags₁ = tags := by
  induction h with
  | nil => rfl
  | text _ _ ih | output _ _ _ ih =>
    exact ih fun l hl => noLoad l (List.mem_cons_of_mem _ hl)
  | load opens load =>
    have bound := opens.bound
    rw [load] at bound
    exact absurd bound (noLoad _ List.mem_cons_self _ opens.token)
  | single _ _ _ _ ih => exact ih fun l hl => noLoad l (List.mem_cons_of_mem _ hl)
  | block _ _ _ _ _ _ ihc ih =>
    have inner := ihc fun l hl => noLoad l (by simp [Derivation.lexemes, hl])
    subst inner
    exact ih fun l hl => noLoad l (by simp [Derivation.lexemes, hl])
  | divided _ _ _ _ _ _ _ _ ihc ihm ih =>
    have first := ihc fun l hl => noLoad l (by simp [Derivation.lexemes, hl])
    subst first
    have second := ihm fun l hl => noLoad l (by simp [Derivation.lexemes, hl])
    subst second
    exact ih fun l hl => noLoad l (by simp [Derivation.lexemes, hl])

/-- What holds of the nodes as they are built holds everywhere in a derived tree. -/
theorem everywhere {P : Node → Prop} {tags' : Dict Binding} {d : Derivation} {ns : List Node}
    (h : Derives libraries ends tags d ns tags') (headOnly : Node.HeadOnly P) (empty : P .empty)
    (text : ∀ s, P (.text s))
    (output : ∀ l ∈ d.lexemes, ∀ {contents offset e}, l.token = .variable contents offset →
      Expr.ofVariable contents offset l.line = .ok e → P (.variable e))
    (builds : ∀ head ∈ d.heads, ∀ {first second node},
      Builds head.binding head.tag first second node → P node) :
    ∀ n ∈ ns, n.Everywhere P := by
  have leaf {node : Node} (here : P node) (childless : node.children = []) : node.Everywhere P :=
    .intro here (by simp [childless])
  induction h with
  | nil => simp
  | text _ _ ih =>
    have rest := ih (fun l hl => output l (List.mem_cons_of_mem _ hl)) builds
    exact List.forall_mem_cons.2 ⟨leaf (text _) rfl, rest⟩
  | output token valid _ ih =>
    have rest := ih (fun l hl => output l (List.mem_cons_of_mem _ hl)) builds
    exact List.forall_mem_cons.2
      ⟨leaf (output _ List.mem_cons_self token valid) rfl, rest⟩
  | load _ _ _ _ _ ih =>
    have rest := ih (fun l hl => output l (List.mem_cons_of_mem _ hl))
      fun head hh => builds head (List.mem_cons_of_mem _ hh)
    exact List.forall_mem_cons.2 ⟨leaf empty rfl, rest⟩
  | single _ _ built _ ih =>
    have rest := ih (fun l hl => output l (List.mem_cons_of_mem _ hl))
      fun head hh => builds head (List.mem_cons_of_mem _ hh)
    have here := builds _ List.mem_cons_self built
    exact List.forall_mem_cons.2 ⟨built.everywhere headOnly here (by simp) (by simp), rest⟩
  | block _ _ _ _ built _ ihc ih =>
    have body := ihc (fun l hl => output l (by simp [Derivation.lexemes, hl]))
      fun head hh => builds head (by simp [Derivation.heads, hh])
    have rest := ih (fun l hl => output l (by simp [Derivation.lexemes, hl]))
      fun head hh => builds head (by simp [Derivation.heads, hh])
    have here := builds _ List.mem_cons_self built
    exact List.forall_mem_cons.2 ⟨built.everywhere headOnly here body (by simp), rest⟩
  | divided _ _ _ _ _ _ built _ ihc ihm ih =>
    have first := ihc (fun l hl => output l (by simp [Derivation.lexemes, hl]))
      fun head hh => builds head (by simp [Derivation.heads, hh])
    have second := ihm (fun l hl => output l (by simp [Derivation.lexemes, hl]))
      fun head hh => builds head (by simp [Derivation.heads, hh])
    have rest := ih (fun l hl => output l (by simp [Derivation.lexemes, hl]))
      fun head hh => builds head (by simp [Derivation.heads, hh])
    have here := builds _ List.mem_cons_self built
    exact List.forall_mem_cons.2 ⟨built.everywhere headOnly here first second, rest⟩

end Derives

end SlotTemplate
