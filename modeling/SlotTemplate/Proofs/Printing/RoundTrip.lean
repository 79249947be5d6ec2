import SlotTemplate.Component.Stock
import SlotTemplate.Proofs.Printing.Grammar
import SlotTemplate.Proofs.Printing.Pieces
import SlotTemplate.Proofs.Derivation.Parsing

/-!
# Printed trees are read back

* `reads_print`: a printed node is derived in front of any derivation, as the same node up to
  places;
* `Engine.compileNamed_printSource`: printing and compiling give back a tree up to places.
-/

namespace SlotTemplate

open Markup

variable {l : Library} {libraries : Dict Library} {q : Quoting}

/-- A printed node is derived in front of any derivation, as the same node up to places. -/
def Reads (l : Library) (libraries : Dict Library) (q : Quoting) (n : Node) : Prop :=
  ∀ ends pos line d ms, (∀ name ∈ ends, isEndName name = true) →
    Derives libraries ends l.tags d ms l.tags →
    ∃ d' m, Derives libraries ends l.tags d' (m :: ms) l.tags ∧
      d'.lexemes = place pos line (n.print q) ++ d.lexemes ∧ m.erase = n.erase

/-- Printed nodes are derived as the same nodes up to places. -/
def ReadsAll (l : Library) (libraries : Dict Library) (q : Quoting) (ns : List Node) : Prop :=
  ∀ ends pos line, (∀ name ∈ ends, isEndName name = true) →
    ∃ d ms, Derives libraries ends l.tags d ms l.tags ∧
      d.lexemes = place pos line (printAll q ns) ∧ eraseAll ms = eraseAll ns

theorem readsAll {ns : List Node} (reads : ∀ n ∈ ns, Reads l libraries q n) :
    ReadsAll l libraries q ns := by
  intro ends pos line awaited
  induction ns generalizing pos line with
  | nil => exact ⟨.nil, [], .nil, rfl, rfl⟩
  | cons n ns ih =>
    obtain ⟨here, others⟩ := List.forall_mem_cons.1 reads
    obtain ⟨pos', line', placed⟩ := exists_place_append (n.print q) (printAll q ns) pos line
    obtain ⟨d, ms, derives, lexemes, same⟩ := ih others pos' line'
    obtain ⟨d', m, derives', lexemes', same'⟩ := here ends pos line d ms awaited derives
    refine ⟨d', m :: ms, derives', ?_, ?_⟩
    · rw [lexemes', lexemes, printAll, placed]
    · rw [eraseAll, eraseAll, same, same']

section

variable {n : Node} {b : Binding} {name middle last : String} {args : List Char}

/-- A printed tag opens a block where an end is awaited. -/
theorem opens_spells {t : Tag} {lexeme : Lexeme} {ends : List String} (spells : t.Spells name args)
    (token : lexeme.token = .block t) (bound : l.binding? name = some b)
    (free : isEndName name = false) (awaited : ∀ name ∈ ends, isEndName name = true) :
    (⟨lexeme, t, b⟩ : Head).Opens ends l.tags := by
  refine ⟨token, ?_, ?_⟩
  · rw [spells.name_eq]
    intro hm
    rw [awaited name hm] at free
    cases free
  · rw [spells.name_eq]
    exact bound

theorem place_closing (closing : Tag.Writable name []) (pos line : Nat) (ps : List Piece) :
    ∃ lexeme pos' line', place pos line (tagPiece name [] :: ps) = lexeme :: place pos' line' ps ∧
      lexeme.Named name := by
  obtain ⟨lexeme, t, pos', line', placed, token, spells⟩ := closing.place pos line ps
  exact ⟨lexeme, pos', line', placed, t, token, spells.name_eq⟩

theorem reads_single (print : n.print q = [tagPiece name args]) (writable : Tag.Writable name args)
    (bound : l.binding? name = some b) (free : isEndName name = false) (form : b.form = .alone)
    (builds : ∀ t : Tag, t.Spells name args → ∃ m, Builds b t [] [] m ∧ m.erase = n.erase) :
    Reads l libraries q n := by
  intro ends pos line d ms awaited derives
  obtain ⟨lexeme, t, pos', line', placed, token, spells⟩ := writable.place pos line []
  obtain ⟨m, built, same⟩ := builds t spells
  have opens := opens_spells spells token bound free awaited
  refine ⟨.single ⟨lexeme, t, b⟩ d, m, .single opens form built derives, ?_, same⟩
  rw [print, placed]
  rfl

theorem reads_block {content : List Node} {middle? : Option String}
    (print : n.print q = tagPiece name args :: (printAll q content ++ [tagPiece last []]))
    (writable : Tag.Writable name args) (bound : l.binding? name = some b)
    (free : isEndName name = false) (form : b.form = .block middle? last)
    (ends : ∀ name ∈ middle?.toList ++ [last], isEndName name = true)
    (closing : Tag.Writable last []) (inside : ReadsAll l libraries q content)
    (builds : ∀ (t : Tag) ms, t.Spells name args → eraseAll ms = eraseAll content →
      ∃ m, Builds b t ms [] m ∧ m.erase = n.erase) :
    Reads l libraries q n := by
  intro ends' pos line d ms awaited derives
  obtain ⟨lexeme, t, pos₁, line₁, placed, token, spells⟩ :=
    writable.place pos line (printAll q content ++ [tagPiece last []])
  obtain ⟨pos₂, line₂, split⟩ :=
    exists_place_append (printAll q content) [tagPiece last []] pos₁ line₁
  obtain ⟨close, _, _, closed, named⟩ := place_closing closing pos₂ line₂ []
  obtain ⟨inner, body, derived, lexemes, same⟩ := inside _ pos₁ line₁ ends
  obtain ⟨m, built, same'⟩ := builds t body spells same
  have opens := opens_spells spells token bound free awaited
  refine ⟨.block ⟨lexeme, t, b⟩ inner close d, m, .block opens form derived named built derives, ?_,
    same'⟩
  rw [print, placed, split, closed, Derivation.lexemes, lexemes]
  simp [place]

theorem reads_branches {first second : List Node}
    (print : n.print q = tagPiece name args ::
      (printAll q first ++
        (if second.isEmpty then [] else tagPiece middle [] :: printAll q second) ++
          [tagPiece last []]))
    (writable : Tag.Writable name args) (bound : l.binding? name = some b)
    (free : isEndName name = false) (form : b.form = .block (some middle) last)
    (ends : ∀ name ∈ [middle, last], isEndName name = true) (dividing : Tag.Writable middle [])
    (closing : Tag.Writable last []) (reads : ReadsAll l libraries q first)
    (more : ReadsAll l libraries q second)
    (builds : ∀ (t : Tag) ms ms', t.Spells name args → eraseAll ms = eraseAll first →
      eraseAll ms' = eraseAll second → ∃ m, Builds b t ms ms' m ∧ m.erase = n.erase) :
    Reads l libraries q n := by
  cases second with
  | nil =>
    refine reads_block (by simpa using print) writable bound free form ends closing reads ?_
    exact fun t ms spells same => builds t ms [] spells same rfl
  | cons n' second =>
    intro ends' pos line d ms awaited derives
    have last' := List.forall_mem_cons.1 ends
    obtain ⟨lexeme, t, pos₁, line₁, placed, token, spells⟩ := writable.place pos line
      (printAll q first ++ tagPiece middle [] :: (printAll q (n' :: second) ++ [tagPiece last []]))
    obtain ⟨pos₂, line₂, split⟩ := exists_place_append (printAll q first)
      (tagPiece middle [] :: (printAll q (n' :: second) ++ [tagPiece last []])) pos₁ line₁
    obtain ⟨divide, pos₃, line₃, divided, named⟩ :=
      place_closing dividing pos₂ line₂ (printAll q (n' :: second) ++ [tagPiece last []])
    obtain ⟨pos₄, line₄, split'⟩ :=
      exists_place_append (printAll q (n' :: second)) [tagPiece last []] pos₃ line₃
    obtain ⟨close, _, _, closed, named'⟩ := place_closing closing pos₄ line₄ []
    obtain ⟨left, body, derived, lexemes, same⟩ := reads _ pos₁ line₁ ends
    obtain ⟨right, body', derived', lexemes', same'⟩ := more _ pos₃ line₃ last'.2
    obtain ⟨m, built, whole⟩ := builds t body body' spells same same'
    have opens := opens_spells spells token bound free awaited
    refine ⟨.divided ⟨lexeme, t, b⟩ left divide right close d, m,
      .divided opens form derived named derived' named' built derives, ?_, whole⟩
    rw [print]
    simp only [List.isEmpty_cons, Bool.false_eq_true, if_false, List.append_assoc, List.cons_append]
    rw [placed, split, divided, split', closed, Derivation.lexemes, lexemes, lexemes']
    simp [place]

end

/-! ## Nodes -/

theorem reads_text (s : String) : Reads l libraries q (.text s) := by
  intro ends pos line d ms _ derives
  refine ⟨.text _ d, .text s, .text ?_ derives, rfl, rfl⟩
  exact congrArg Token.text String.ofList_toList

theorem reads_variable {e : Expr} (printable : e.Printable) :
    Reads l libraries q (.variable e) := by
  intro ends pos line d ms _ derives
  obtain ⟨lexeme, offset, pos', line', placed, token⟩ :=
    place_variable (q := q) printable pos line []
  obtain ⟨e', valid, same⟩ := Expr.ofVariable_spell (q := q) printable offset lexeme.line
  refine ⟨.output lexeme d, .variable e', .output token valid derives, ?_, ?_⟩
  · rw [Node.print, placed]
    rfl
  · rw [Node.erase, Node.erase, same]

theorem reads_marker (standard : l.Standard) {name : String} {content : List Node} {span : Span}
    {line : Nat} (identifier : isIdentifier name = true) (inside : ReadsAll l libraries q content) :
    Reads l libraries q (.marker name content span line) := by
  refine reads_block rfl (writable_slot (by decide) (by decide) identifier)
    standard.slot (by decide) rfl (by decide) (.of_all (by decide) (by decide) .nil) inside ?_
  intro t ms spells same
  refine ⟨_, .slot (Tag.slotName_spells identifier spells), ?_⟩
  rw [Node.erase, Node.erase, same]

theorem reads_conditional (standard : l.Standard) {negated : Bool} {e : Expr} {a b : List Node}
    (printable : e.Printable) (first : ReadsAll l libraries q a)
    (second : ReadsAll l libraries q b) : Reads l libraries q (.conditional negated e a b) := by
  refine reads_branches rfl (writable_condition negated printable) standard.conditional (by decide)
    rfl (by decide) (.of_all (by decide) (by decide) .nil) (.of_all (by decide) (by decide) .nil)
    first second ?_
  intro t ms ms' spells same same'
  obtain ⟨c, header, rfl, expr⟩ := Tag.condition_spells printable spells
  refine ⟨_, .conditional header, ?_⟩
  rw [Node.erase, Node.erase, expr, same, same']

theorem reads_loop (standard : l.Standard) {name : String} {e : Expr} {body instead : List Node}
    (identifier : isIdentifier name = true) (printable : e.Printable)
    (first : ReadsAll l libraries q body) (second : ReadsAll l libraries q instead) :
    Reads l libraries q (.loop name e body instead) := by
  refine reads_branches rfl (writable_loop identifier printable) standard.loop (by decide)
    rfl (by decide) (.of_all (by decide) (by decide) .nil) (.of_all (by decide) (by decide) .nil)
    first second ?_
  intro t ms ms' spells same same'
  obtain ⟨header, read, rfl, expr⟩ := Tag.loopHeader_spells identifier printable spells
  refine ⟨_, .loop read, ?_⟩
  rw [Node.erase, Node.erase, expr, same, same']

theorem reads_inline {c : Component} {tag : String} {args : List Argument} {span : Span}
    (h : Invocable l c tag args []) (written : tag = c.inlineTag)
    (bound : l.binding? tag = some (.inline c)) :
    Reads l libraries q (.invocation c tag args [] span) := by
  refine reads_single rfl (h.regular.writable (.inl written) (Argument.attached h.arguments)) bound
    (h.regular.not_isEndName (.inl written)) rfl ?_
  intro t spells
  obtain ⟨args', read, same⟩ := Tag.invocationArguments_spells h.arguments h.distinct spells
  refine ⟨_, .inline read, ?_⟩
  rw [Node.erase, Node.erase, same, spells.name_eq]

theorem reads_body {c : Component} {tag : String} {args : List Argument} {content : List Node}
    {named : List Slot} {span : Span} (h : Invocable l c tag args (⟨defaultSlot, content⟩ :: named))
    (written : tag = c.openTag) (bound : l.binding? tag = some (.block c))
    (divided : Divided (⟨defaultSlot, content⟩ :: named))
    (inside : ReadsAll l libraries q (content ++ named.map Slot.marker)) :
    Reads l libraries q (.invocation c tag args (⟨defaultSlot, content⟩ :: named) span) := by
  have ends : ∀ name ∈ Option.toList none ++ [c.closeTag], isEndName name = true := by
    simpa using h.regular.isEndName_closeTag
  refine reads_block print_body
    (h.regular.writable (.inr written) (Argument.attached h.arguments)) bound
    (h.regular.not_isEndName (.inr written)) rfl ends h.regular.writable_closeTag inside ?_
  intro t ms spells same
  obtain ⟨args', read, same'⟩ := Tag.invocationArguments_spells h.arguments h.distinct spells
  have slots : eraseSlots (bodySlots ms) = eraseSlots (⟨defaultSlot, content⟩ :: named) := by
    rw [← bodySlots_erase, same, bodySlots_erase, divided.bodySlots_body]
  have distinct : ((bodySlots ms).map Slot.name).Nodup := by
    rw [← eraseSlots_names, slots, eraseSlots_names]
    exact divided.nodup
  refine ⟨_, .block read distinct, ?_⟩
  rw [Node.erase, Node.erase, same', slots, spells.name_eq]

/-- A printed node is read back. -/
theorem reads_print (standard : l.Standard) {node : Node}
    (h : node.Everywhere (Node.Printable l)) : Reads l libraries q node := by
  induction h with
  | @intro node here inside ih =>
    have part {ns : List Node} (sub : ∀ n ∈ ns, n ∈ node.children) : ReadsAll l libraries q ns :=
      readsAll fun n hn => ih n (sub n hn)
    cases node with
    | text s => exact reads_text s
    | «variable» e => exact reads_variable here
    | conditional negated e a b =>
      exact reads_conditional standard here.1 (part fun n hn => List.mem_append_left b hn)
        (part fun n hn => List.mem_append_right a hn)
    | loop name e body instead =>
      exact reads_loop standard here.1 here.2.1 (part fun n hn => List.mem_append_left instead hn)
        (part fun n hn => List.mem_append_right body hn)
    | marker name content span line =>
      exact reads_marker standard here.1 (part fun _ hn => hn)
    | slotOutput name =>
      refine reads_single rfl (writable_slot (by decide) (by decide) here) standard.slotOutput
        (by decide) rfl fun t spells => ?_
      exact ⟨_, .slotOutput (Tag.slotName_spells here spells), rfl⟩
    | empty => cases here
    | invocation c tag args slots span =>
      rcases here.form with ⟨written, bound, rfl⟩ | ⟨written, bound, divided⟩
      · exact reads_inline here written bound
      · cases divided with
        | @intro content named distinct names apart unmarked unspliced =>
          refine reads_body here written bound ⟨distinct, names, apart, unmarked, unspliced⟩ ?_
          refine readsAll (List.forall_mem_append.2 ⟨fun n hn => ?_, fun n hn => ?_⟩)
          · exact ih n (List.mem_append_left _ hn)
          · obtain ⟨slot, hs, rfl⟩ := List.mem_map.1 hn
            refine reads_marker standard (names slot hs) (part fun n hn => ?_)
            exact List.mem_append_right _ (List.mem_flatMap.2 ⟨slot, hs, hn⟩)

/-- Printing a tree and compiling the source gives back the tree, up to places. -/
theorem Engine.compileNamed_printSource {e : Engine} {ns : List Node} (name : String)
    (standard : e.builtins.Standard) (apart : Apart ns)
    (printable : ∀ n ∈ ns, n.Everywhere (Node.Printable e.builtins)) (q : Quoting) :
    ∃ t, e.compileNamed name (printSource q ns) = .ok t ∧ eraseAll t.nodes = eraseAll ns := by
  have legible : Legible (printAll q ns) := by
    have all := printsAll (q := q) (fun n hn => prints_print (printable n hn))
      (fun n hn => (printable n hn).here) apart [] True.intro textFree_nil
    rwa [List.append_nil] at all
  have cut : scan (printSource q ns).toList = printAll q ns := by
    rw [printSource, String.toList_ofList, scan_legible legible]
  have reads : ReadsAll e.builtins e.libraries q ns :=
    readsAll fun n hn => reads_print standard (printable n hn)
  obtain ⟨d, ms, derives, lexemes, same⟩ := reads [] 0 1 (List.forall_mem_nil _)
  have parsed : compileSource e.builtins e.libraries (printSource q ns) = .ok ms :=
    Parser.parse_eq_ok_iff.2 ⟨d, e.builtins.tags, by rw [lexemes, tokenize, cut], derives⟩
  exact ⟨⟨name, ms⟩, map_eq_ok_iff.2 ⟨ms, parsed, rfl⟩, same⟩

theorem Engine.compileNamed_printSource_card :
    let card := Component.named "card"
    let e := Engine.default.addBuiltins (Library.empty.component card)
    let score : Expr :=
      ⟨.lookup "a" ["0", "1"], [⟨.default (.literal (.string "%\x7d\"")), ⟨0, 0⟩⟩], ⟨0, 0⟩⟩
    let ns : List Node :=
      [.conditional true score [.text "x", .variable score] [],
        .invocation card "card" [⟨"size", ⟨.literal (.int 2), [], ⟨0, 0⟩⟩, ⟨0, 0⟩⟩]
          [⟨defaultSlot, [.text "body"]⟩, ⟨"foot", [.invocation card "card/" [] [] ⟨0, 0⟩]⟩]
          ⟨0, 0⟩]
    e.builtins.Standard ∧ Apart ns ∧ (∀ n ∈ ns, n.Everywhere (Node.Printable e.builtins)) ∧
      ∃ t, e.compileNamed "page" (printSource .double ns) = .ok t ∧
        eraseAll t.nodes = eraseAll ns := by
  intro card e score ns
  have regular : card.Regular := ⟨rfl, rfl, rfl, by decide, by rintro _ ⟨⟩, by decide⟩
  have standard : e.builtins.Standard :=
    Library.standard_builtin.merge (Library.additional_empty.component regular)
  have apart : Apart ns := True.intro
  have entries : (Library.empty.component card).tags.entries =
      [("card", .block card), ("card/", .inline card)] := by
    have qualified : card.qualifiedName = "card" := rfl
    have order : "card" < "card/" := by decide
    simp [Library.component, Library.inlineComponent, Library.enter, Library.tag, Library.empty,
      Dict.insert, Dict.insertEntry, Dict.empty, regular.openTag_eq, regular.inlineTag_eq,
      qualified, order]
  have bound {tag : String} {b : Binding}
      (h : (tag, b) ∈ (Library.empty.component card).tags.entries) :
      e.builtins.binding? tag = some b :=
    Dict.get?_insertAll_of_mem (by rw [entries]; decide) h
  have printable : ∀ n ∈ ns, n.Everywhere (Node.Printable e.builtins) := by
    have leaf {n : Node} (childless : n.children = []) (here : n.Printable e.builtins) :
        n.Everywhere (Node.Printable e.builtins) := .intro here (by simp [childless])
    have text (s : String) (plain : s ≠ "" ∧ '{' ∉ s.toList) := leaf (n := .text s) rfl plain
    have key (n : Int64) (h : 0 ≤ n.toInt) : IsKey (toString n.toInt) := .inr ⟨n, h, rfl⟩
    have lookup : score.Printable := by
      refine ⟨⟨by decide, by decide, by rintro ⟨⟩, ?_⟩, ?_⟩
      · exact List.forall_mem_cons.2 ⟨key 0 (by decide), List.forall_mem_cons.2
          ⟨key 1 (by decide), List.forall_mem_nil _⟩⟩
      · refine List.forall_mem_cons.2 ⟨?_, List.forall_mem_nil _⟩
        rintro _ ⟨⟩
        exact True.intro
    have inline : Invocable e.builtins card "card/" [] [] :=
      ⟨regular, List.forall_mem_nil _, .nil, .inl ⟨by decide, bound (by simp [entries]), rfl⟩⟩
    have unmarked {n : Node} (partless : n.parts = []) (here : n.Unmarked) :
        n.Throughout Node.parts Node.Unmarked := .intro here (by simp [partless])
    have divided : Divided [⟨defaultSlot, [.text "body"]⟩,
        ⟨"foot", [.invocation card "card/" [] [] ⟨0, 0⟩]⟩] := by
      refine ⟨by decide, ?_, ?_, ?_, ?_⟩
      · exact List.forall_mem_cons.2 ⟨by decide, List.forall_mem_nil _⟩
      · exact List.forall_mem_cons.2 ⟨True.intro, List.forall_mem_cons.2
          ⟨True.intro, List.forall_mem_nil _⟩⟩
      · simp only [List.mem_cons, List.not_mem_nil, or_false, forall_eq_or_imp, forall_eq]
        exact ⟨unmarked rfl (by rintro _ _ _ _ ⟨⟩), unmarked rfl (by rintro _ _ _ _ ⟨⟩)⟩
      · simp
    have size : (⟨.literal (.int 2), [], ⟨0, 0⟩⟩ : Expr).Printable := ⟨True.intro, by simp⟩
    have block : (ns[1]).Printable e.builtins :=
      ⟨regular, List.forall_mem_cons.2 ⟨⟨by decide, size⟩, List.forall_mem_nil _⟩, by decide,
        .inr ⟨by decide, bound (by simp [entries]), divided⟩⟩
    refine List.forall_mem_cons.2 ⟨.intro ⟨lookup, True.intro, True.intro⟩ ?_,
      List.forall_mem_cons.2 ⟨.intro block ?_, List.forall_mem_nil _⟩⟩
    · exact List.forall_mem_cons.2 ⟨text "x" (by decide),
        List.forall_mem_cons.2 ⟨leaf rfl lookup, List.forall_mem_nil _⟩⟩
    · exact List.forall_mem_cons.2 ⟨text "body" (by decide),
        List.forall_mem_cons.2 ⟨leaf rfl inline, List.forall_mem_nil _⟩⟩
  exact ⟨standard, apart, printable,
    Engine.compileNamed_printSource "page" standard apart printable .double⟩

end SlotTemplate
