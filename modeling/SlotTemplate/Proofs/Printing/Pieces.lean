import SlotTemplate.Proofs.Printing.Slots
import SlotTemplate.Proofs.Printing.Tags

/-!
# Pieces of printed trees

* `prints_print`: a printable node is cut out of a source again, whatever tags and variables follow;
* `printsAll`: so are printable nodes of which no two texts stand side by side.
-/

namespace SlotTemplate

open Markup

theorem printAll_append (q : Quoting) (a b : List Node) :
    printAll q (a ++ b) = printAll q a ++ printAll q b := by
  induction a with
  | nil => rfl
  | cons n a ih => rw [List.cons_append, printAll, printAll, ih, List.append_assoc]

theorem Apart.tail {n : Node} {ns : List Node} (h : Apart (n :: ns)) : Apart ns := by
  cases n with
  | text s =>
    cases ns with
    | nil => exact True.intro
    | cons m ns =>
      cases m with
      | text s' => cases h
      | _ => exact h
  | _ => exact h

theorem Apart.next {s : String} {n : Node} {ns : List Node} (h : Apart (.text s :: n :: ns)) :
    ∀ s', n ≠ .text s' := by
  rintro s' rfl
  cases h

variable {l : Library} {q : Quoting}

theorem print_markup {n : Node} (h : n.Printable l) (other : ∀ s, n ≠ .text s) :
    ∃ d body ps, n.print q = .markup d body :: ps := by
  cases n with
  | text s => exact absurd rfl (other s)
  | empty => cases h
  | invocation c tag args slots span =>
    match slots with
    | [] => exact ⟨_, _, _, rfl⟩
    | ⟨_, _⟩ :: _ => exact ⟨_, _, _, rfl⟩
  | _ => exact ⟨_, _, _, rfl⟩

/-- A node is cut out of a source in front of pieces that are, too. -/
def Prints (q : Quoting) (n : Node) : Prop :=
  ∀ ps, Legible ps → ((∃ s, n = .text s) → TextFree ps) → Legible (n.print q ++ ps)

/-- Nodes are cut out of a source in front of a tag, or at its end. -/
def PrintsAll (q : Quoting) (ns : List Node) : Prop :=
  ∀ ps, Legible ps → TextFree ps → Legible (printAll q ns ++ ps)

theorem textFree_nil : TextFree [] := by
  rintro _ _ ⟨⟩

theorem textFree_tag (name : String) (args : List Char) (ps : List Piece) :
    TextFree (tagPiece name args :: ps) := by
  rintro _ _ ⟨⟩

theorem legible_tag {name : String} {args : List Char} {ps : List Piece}
    (writable : Tag.Writable name args) (h : Legible ps) : Legible (tagPiece name args :: ps) :=
  ⟨writable.sealed, h⟩

theorem printsAll {ns : List Node} (prints : ∀ n ∈ ns, Prints q n)
    (printable : ∀ n ∈ ns, n.Printable l) (apart : Apart ns) : PrintsAll q ns := by
  intro ps h free
  induction ns with
  | nil => exact h
  | cons n ns ih =>
    obtain ⟨here, others⟩ := List.forall_mem_cons.1 prints
    obtain ⟨-, printableOthers⟩ := List.forall_mem_cons.1 printable
    rw [printAll, List.append_assoc]
    refine here _ (ih others printableOthers apart.tail) ?_
    rintro ⟨s, rfl⟩
    cases ns with
    | nil => exact free
    | cons m ns =>
      obtain ⟨d, body, qs, markup⟩ :=
        print_markup (q := q) (printableOthers m List.mem_cons_self) apart.next
      rw [printAll, markup]
      rintro _ _ ⟨⟩

theorem prints_block {n : Node} {content : List Node} {name last : String} {args : List Char}
    (print : n.print q = tagPiece name args :: (printAll q content ++ [tagPiece last []]))
    (writable : Tag.Writable name args) (closing : Tag.Writable last [])
    (inside : PrintsAll q content) : Prints q n := by
  intro ps h _
  rw [print, List.cons_append, List.append_assoc]
  exact legible_tag writable (inside _ (legible_tag closing h) (textFree_tag _ _ _))

theorem prints_branches {n : Node} {a b : List Node} {name middle last : String}
    {args : List Char}
    (print : n.print q = tagPiece name args ::
      (printAll q a ++ (if b.isEmpty then [] else tagPiece middle [] :: printAll q b) ++
        [tagPiece last []]))
    (writable : Tag.Writable name args) (dividing : Tag.Writable middle [])
    (closing : Tag.Writable last []) (first : PrintsAll q a) (second : PrintsAll q b) :
    Prints q n := by
  cases b with
  | nil => exact prints_block (by simpa using print) writable closing first
  | cons m b =>
    intro ps h _
    have inner := second _ (legible_tag closing h) (textFree_tag _ _ _)
    have whole := first _ (legible_tag dividing inner) (textFree_tag _ _ _)
    rw [print]
    simpa using legible_tag writable whole

theorem writable_slot {tag name : String} (solid : tag.toList.all isSolid = true)
    (nonempty : tag.toList ≠ []) (identifier : isIdentifier name = true) :
    Tag.Writable tag (' ' :: name.toList) := by
  obtain ⟨nameSolid, hne⟩ := Solid.identifier identifier
  exact .of_all solid nonempty (.blank (.of_solid nameSolid hne))

theorem prints_marker {name : String} {content : List Node} {span : Span} {line : Nat}
    (identifier : isIdentifier name = true) (inside : PrintsAll q content) :
    Prints q (.marker name content span line) :=
  prints_block rfl (writable_slot (by decide) (by decide) identifier)
    (.of_all (by decide) (by decide) .nil) inside

theorem print_body {c : Component} {tag : String} {args : List Argument} {content : List Node}
    {named : List Slot} {span : Span} :
    (Node.invocation c tag args (⟨defaultSlot, content⟩ :: named) span).print q =
      tagPiece tag (args.flatMap (Argument.spell q)) ::
        (printAll q (content ++ named.map Slot.marker) ++ [tagPiece c.closeTag []]) := by
  rw [Node.print, printSlots_eq, printAll_append]

/-- The markers of named slots may follow any content. -/
theorem printsAll_body {content : List Node} {named : List Slot} (inside : PrintsAll q content)
    (markers : ∀ slot ∈ named, Prints q slot.marker) :
    PrintsAll q (content ++ named.map Slot.marker) := by
  intro ps h free
  rw [printAll_append, List.append_assoc]
  have behind : Legible (printAll q (named.map Slot.marker) ++ ps) ∧
      TextFree (printAll q (named.map Slot.marker) ++ ps) := by
    induction named with
    | nil => exact ⟨h, free⟩
    | cons slot named ih =>
      obtain ⟨here, others⟩ := List.forall_mem_cons.1 markers
      rw [List.map_cons, printAll, List.append_assoc]
      exact ⟨here _ (ih others).1 (by rintro ⟨_, ⟨⟩⟩), textFree_tag _ _ _⟩
  exact inside _ behind.1 behind.2

theorem writable_condition (negated : Bool) {e : Expr} (printable : e.Printable) :
    Tag.Writable "if" (' ' :: ((if negated then "not ".toList else []) ++ e.spell q)) := by
  have expr := Expr.compact (q := q) printable
  refine .of_all (by decide) (by decide) (.blank ?_)
  cases negated with
  | true =>
    have word : Compact "not".toList := .of_solid (Solid.identifier (by decide)).1 (by decide)
    exact word.attach (.blank expr)
  | false => exact expr

theorem writable_loop {name : String} (identifier : isIdentifier name = true) {e : Expr}
    (printable : e.Printable) :
    Tag.Writable "for" (' ' :: (name.toList ++ " in ".toList ++ e.spell q)) := by
  have expr := Expr.compact (q := q) printable
  obtain ⟨solid, hne⟩ := Solid.identifier identifier
  have word : Compact "in".toList := .of_solid (Solid.identifier (by decide)).1 (by decide)
  have whole := (Compact.of_solid solid hne).attach (.blank (word.attach (.blank expr)))
  refine .of_all (by decide) (by decide) (.blank ?_)
  rw [List.append_assoc]
  exact whole

/-- The pieces of a printable tree are cut out of a source. -/
theorem prints_print {node : Node} (h : node.Everywhere (Node.Printable l)) : Prints q node := by
  induction h with
  | @intro node here inside ih =>
    have part {ns : List Node} (sub : ∀ n ∈ ns, n ∈ node.children) (apart : Apart ns) :
        PrintsAll q ns :=
      printsAll (fun n hn => ih n (sub n hn)) (fun n hn => (inside n (sub n hn)).here) apart
    cases node with
    | text s =>
      obtain ⟨hne, plain⟩ := here
      intro ps h free
      exact ⟨by simpa using hne, plain, free ⟨s, rfl⟩, h⟩
    | «variable» e =>
      intro ps h _
      exact ⟨sealed_of_shielded .variable (Expr.compact here).shielded, h⟩
    | conditional negated e a b =>
      obtain ⟨expr, apartFirst, apartSecond⟩ := here
      exact prints_branches rfl (writable_condition negated expr)
        (.of_all (by decide) (by decide) .nil) (.of_all (by decide) (by decide) .nil)
        (part (fun n hn => List.mem_append_left b hn) apartFirst)
        (part (fun n hn => List.mem_append_right a hn) apartSecond)
    | loop name e body instead =>
      obtain ⟨identifier, expr, apartFirst, apartSecond⟩ := here
      exact prints_branches rfl (writable_loop identifier expr)
        (.of_all (by decide) (by decide) .nil) (.of_all (by decide) (by decide) .nil)
        (part (fun n hn => List.mem_append_left instead hn) apartFirst)
        (part (fun n hn => List.mem_append_right body hn) apartSecond)
    | marker name content span line => exact prints_marker here.1 (part (fun _ hn => hn) here.2)
    | slotOutput name =>
      intro ps h _
      exact legible_tag (writable_slot (by decide) (by decide) here) h
    | empty => cases here
    | invocation c tag args slots span =>
      have attached := Argument.attached (q := q) here.arguments
      rcases here.form with ⟨written, -, rfl⟩ | ⟨written, -, divided⟩
      · intro ps h _
        exact legible_tag (here.regular.writable (.inl written) attached) h
      · cases divided with
        | @intro content named distinct names apart unmarked unspliced =>
          obtain ⟨apartContent, apartNamed⟩ := List.forall_mem_cons.1 apart
          refine prints_block print_body (here.regular.writable (.inr written) attached)
            here.regular.writable_closeTag (printsAll_body ?_ fun slot hs => ?_)
          · exact part (fun n hn => List.mem_append_left _ hn) apartContent
          · refine prints_marker (names slot hs) (part (fun n hn => ?_) (apartNamed slot hs))
            exact List.mem_append_right _ (List.mem_flatMap.2 ⟨slot, hs, hn⟩)

end SlotTemplate
