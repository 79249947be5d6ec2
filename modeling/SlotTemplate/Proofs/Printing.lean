import SlotTemplate.Argument.Lexer
import SlotTemplate.Library
import SlotTemplate.Markup.Lexer
import SlotTemplate.Proofs.Numeral
import SlotTemplate.Proofs.Tree.Partition

/-!
# Printing of trees

A tree is written as the pieces of a source. A tag stands between single blanks; a text literal may
be quoted in any way that keeps the closing braces of tags out of it.

* `Node.print`: the pieces that a node is written as;
* `Node.erase`: a node without the places of its parts, which printing forgets;
* `Node.Printable`: what a node must be like so that it can be read back.
-/

namespace SlotTemplate

open Markup

/-- How a text is quoted: between which marks and with a backslash in front of which characters. -/
structure Quoting where
  mark : Char
  escapes : Char → Bool
  isMark : mark = '"' ∨ mark = '\''
  mark_escaped : escapes mark = true
  backslash_escaped : escapes '\\' = true
  brace_escaped : escapes '}' = true
  /-- A backslash would change these. -/
  bare : ∀ c ∈ ['n', 't', '\n'], escapes c = false

namespace Quoting

/-- A character as it stands in a literal. -/
def char (q : Quoting) (c : Char) : List Char := if q.escapes c then ['\\', c] else [c]

def literal (q : Quoting) (s : String) : List Char :=
  q.mark :: (s.toList.flatMap q.char ++ [q.mark])

/-- The quoting with as few backslashes as possible. -/
def double : Quoting where
  mark := '"'
  escapes := fun c => c == '"' || c == '\\' || c == '}'
  isMark := .inl rfl
  mark_escaped := rfl
  backslash_escaped := rfl
  brace_escaped := rfl
  bare := by simp

end Quoting

variable (q : Quoting)

/-! ## Expressions -/

def Value.spell : Value → List Char
  | .string s => q.literal s
  | .int n => Int64.numeral n
  | .bool b => (if b then "True" else "False").toList
  | _ => "None".toList

def spellKeys (ks : List String) : List Char := ks.flatMap fun k => '.' :: k.toList

def Primary.spell : Primary → List Char
  | .literal v => v.spell q
  | .lookup name keys => name.toList ++ spellKeys keys

def Filter.spell (f : Filter) : List Char :=
  '|' :: (f.kind.name.toList ++ f.kind.argument?.elim [] fun p => ':' :: p.spell q)

def Expr.spell (e : Expr) : List Char := e.primary.spell q ++ e.filters.flatMap (Filter.spell q)

def Argument.spell (a : Argument) : List Char := ' ' :: (a.name.toList ++ '=' :: a.value.spell q)

/-! ## Nodes -/

/-- A tag with what follows its name. -/
def tagPiece (name : String) (args : List Char) : Piece :=
  .markup .block (' ' :: (name.toList ++ args ++ [' ']))

/-- The tag that names a slot. -/
def slotPiece (tag name : String) : Piece := tagPiece tag (' ' :: name.toList)

mutual

def Node.print : Node → List Piece
  | .text s => [.text s.toList]
  | .variable e => [.markup .variable (' ' :: (e.spell q ++ [' ']))]
  | .conditional negated e a b =>
    tagPiece "if" (' ' :: ((if negated then "not ".toList else []) ++ e.spell q)) ::
      (printAll a ++ (if b.isEmpty then [] else tagPiece "else" [] :: printAll b) ++
        [tagPiece "endif" []])
  | .loop name e body instead =>
    tagPiece "for" (' ' :: (name.toList ++ " in ".toList ++ e.spell q)) ::
      (printAll body ++ (if instead.isEmpty then [] else tagPiece "empty" [] :: printAll instead) ++
        [tagPiece "endfor" []])
  | .invocation _ tag args [] _ => [tagPiece tag (args.flatMap (Argument.spell q))]
  | .invocation c tag args (⟨_, content⟩ :: named) _ =>
    tagPiece tag (args.flatMap (Argument.spell q)) ::
      (printAll content ++ printSlots named ++ [tagPiece c.closeTag []])
  | .marker name content _ _ => slotPiece "slot" name :: (printAll content ++ [tagPiece "/slot" []])
  | .slotOutput name => [slotPiece "slot/" name]
  | .empty => []

def printAll : List Node → List Piece
  | [] => []
  | node :: nodes => node.print ++ printAll nodes

/-- The named slots of a block stand in it as markers. -/
def printSlots : List Slot → List Piece
  | [] => []
  | ⟨name, content⟩ :: slots =>
    slotPiece "slot" name :: (printAll content ++ [tagPiece "/slot" []]) ++ printSlots slots

end

/-- The source that nodes are written as. -/
def printSource (ns : List Node) : String := String.ofList ((printAll q ns).flatMap Piece.source)

/-! ## Places -/

def Expr.erase (e : Expr) : Expr := ⟨e.primary, e.filters.map fun f => ⟨f.kind, default⟩, default⟩

def Argument.erase (a : Argument) : Argument := ⟨a.name, a.value.erase, default⟩

mutual

/-- A node with all its places moved to the start of the source. -/
def Node.erase : Node → Node
  | .text s => .text s
  | .variable e => .variable e.erase
  | .conditional negated e a b => .conditional negated e.erase (eraseAll a) (eraseAll b)
  | .loop name e body instead => .loop name e.erase (eraseAll body) (eraseAll instead)
  | .invocation c tag args slots _ =>
    .invocation c tag (args.map Argument.erase) (eraseSlots slots) default
  | .marker name content _ _ => .marker name (eraseAll content) default 0
  | .slotOutput name => .slotOutput name
  | .empty => .empty

def eraseAll : List Node → List Node
  | [] => []
  | node :: nodes => node.erase :: eraseAll nodes

def eraseSlots : List Slot → List Slot
  | [] => []
  | ⟨name, content⟩ :: slots => ⟨name, eraseAll content⟩ :: eraseSlots slots

end

/-! ## What can be read back -/

/-- Whether a text is read as one name. -/
def isIdentifier (s : String) : Bool :=
  match s.toList with
  | [] => false
  | c :: cs => Argument.isIdentStart c && cs.all Argument.isIdentPart

theorem exists_of_isIdentifier {s : String} (h : isIdentifier s = true) :
    ∃ c cs, s.toList = c :: cs ∧ Argument.isIdentStart c = true ∧
      ∀ d ∈ cs, Argument.isIdentPart d = true := by
  unfold isIdentifier at h
  split at h
  · cases h
  · rename_i c cs spelled
    rw [Bool.and_eq_true, List.all_eq_true] at h
    exact ⟨c, cs, spelled, h⟩

/-- What may stand behind a dot: a name or an index. -/
def IsKey (k : String) : Prop :=
  isIdentifier k = true ∨ ∃ n : Int64, 0 ≤ n.toInt ∧ k = toString n.toInt

/-- Values that have a literal, and floating-point numbers are none of them. -/
def Value.Printable : Value → Prop
  | .null | .bool _ | .int _ | .string _ => True
  | _ => False

def Primary.Printable : Primary → Prop
  | .literal v => v.Printable
  | .lookup name keys => isIdentifier name = true ∧ name ≠ "not" ∧
      (keys = [] → name ∉ ["True", "False", "None"]) ∧ ∀ k ∈ keys, IsKey k

structure Expr.Printable (e : Expr) : Prop where
  primary : e.primary.Printable
  filters : ∀ f ∈ e.filters, ∀ p, f.kind.argument? = some p → p.Printable

/-- No two texts stand side by side. -/
def Apart : List Node → Prop
  | .text _ :: .text _ :: _ => False
  | _ :: nodes => Apart nodes
  | [] => True

/-- The names of tags that no component may have. -/
def reservedNames : List String :=
  ["if", "else", "endif", "for", "empty", "endfor", "slot", "load"]

/-- A component with the usual tags for a name that is its own. -/
structure Component.Regular (c : Component) : Prop where
  inlinePattern : c.inlinePattern = "{name}/"
  openPattern : c.openPattern = "{name}"
  closePattern : c.closePattern = "/{name}"
  name : isIdentifier c.name = true
  space : ∀ s, c.space? = some s → isIdentifier s = true
  free : c.qualifiedName ∉ reservedNames

/-- Slots that a body is divided into: the default slot, then named ones. -/
inductive Divided : List Slot → Prop where
  | intro {content : List Node} {named : List Slot}
      (distinct : ((⟨defaultSlot, content⟩ :: named : List Slot).map Slot.name).Nodup)
      (names : ∀ slot ∈ named, isIdentifier slot.name = true)
      (apart : ∀ slot ∈ (⟨defaultSlot, content⟩ :: named : List Slot), Apart slot.content)
      (unmarked : ∀ slot ∈ (⟨defaultSlot, content⟩ :: named : List Slot), ∀ n ∈ slot.content,
        n.Throughout Node.parts Node.Unmarked)
      (unspliced : ∀ inner span line, .marker defaultSlot inner span line ∉ content) :
      Divided (⟨defaultSlot, content⟩ :: named)

/-- An invocation as a tag of a library writes it, inline or around a body. -/
structure Invocable (l : Library) (c : Component) (tag : String) (args : List Argument)
    (slots : List Slot) : Prop where
  regular : c.Regular
  arguments : ∀ a ∈ args, isIdentifier a.name = true ∧ a.value.Printable
  distinct : (args.map Argument.name).Nodup
  form : tag = c.inlineTag ∧ l.binding? tag = some (.inline c) ∧ slots = [] ∨
    tag = c.openTag ∧ l.binding? tag = some (.block c) ∧ Divided slots

def Node.Printable (l : Library) : Node → Prop
  | .text s => s ≠ "" ∧ '{' ∉ s.toList
  | .variable e => e.Printable
  | .conditional _ e a b => e.Printable ∧ Apart a ∧ Apart b
  | .loop name e body instead =>
    isIdentifier name = true ∧ e.Printable ∧ Apart body ∧ Apart instead
  | .invocation c tag args slots _ => Invocable l c tag args slots
  | .marker name content _ _ => isIdentifier name = true ∧ Apart content
  | .slotOutput name => isIdentifier name = true
  | .empty => False

/-- The tags of every template mean in a library what they mean without it. -/
structure Library.Standard (l : Library) : Prop where
  conditional : l.binding? "if" = some .conditional
  loop : l.binding? "for" = some .loop
  slot : l.binding? "slot" = some .slot
  slotOutput : l.binding? "slot/" = some .slotOutput

end SlotTemplate
