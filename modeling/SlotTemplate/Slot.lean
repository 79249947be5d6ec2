import SlotTemplate.Node
import SlotTemplate.Markup.Lexeme

/-!
# Slots of a block

The body of a block invocation is divided into the default slot and the named slots whose markers
stand in it.
-/

namespace SlotTemplate

/-- A slot marker that was taken out of a body. -/
structure Marker where
  name : String
  content : List Node
  span : Span
  line : Nat

mutual

/-- Takes the named markers out of a node: what stays of it, and the markers in source order.
Invocations keep theirs. -/
def Node.extract : Node → List Node × List Marker
  | .marker name content span line =>
    let (content, inner) := extractAll content
    if name = defaultSlot then ([.marker name content span line], inner)
    else ([], ⟨name, content, span, line⟩ :: inner)
  | .conditional negated condition thenBranch elseBranch =>
    let (thenBranch, first) := extractAll thenBranch
    let (elseBranch, second) := extractAll elseBranch
    ([.conditional negated condition thenBranch elseBranch], first ++ second)
  | .loop name iterable body empty =>
    let (body, first) := extractAll body
    let (empty, second) := extractAll empty
    ([.loop name iterable body empty], first ++ second)
  | node => ([node], [])

/-- Takes the named markers out of a list of nodes. -/
def extractAll : List Node → List Node × List Marker
  | [] => ([], [])
  | node :: nodes =>
    let (kept, first) := node.extract
    let (rest, second) := extractAll nodes
    (kept ++ rest, first ++ second)

end

/-- Puts the content of each marker of the default slot in its place. -/
def spliceDefault : List Node → List Node
  | [] => []
  | .marker name content span line :: nodes =>
    if name = defaultSlot then content ++ spliceDefault nodes
    else .marker name content span line :: spliceDefault nodes
  | node :: nodes => node :: spliceDefault nodes

/-- The first marker whose name occurred before; `seen` are the names so far. -/
def repeatedMarker? (seen : List String) : List Marker → Option Marker
  | [] => none
  | m :: ms => if seen.contains m.name then some m else repeatedMarker? (m.name :: seen) ms

/-- Divides the body of a block that a tag opens: the default slot first, then the named slots in
source order. No name may come twice. -/
def partitionSlots (tag : Tag) (body : List Node) : Except TagError (List Slot) :=
  let (rest, markers) := extractAll (spliceDefault body)
  match repeatedMarker? [] markers with
  | some m => .error ⟨tag.name, m.span, m.line, .repeatedSlot m.name⟩
  | none => .ok (⟨defaultSlot, rest⟩ :: markers.map fun m => ⟨m.name, m.content⟩)

/-- The slot that a slot tag names; without a name it is the default one. -/
def Tag.slotName (t : Tag) : Except TagError String :=
  match t.words with
  | _ :: _ :: extra@(_ :: _) => .error ⟨t.name, t.span, t.line, .extraWords extra⟩
  | _ :: name :: _ => .ok name
  | _ => .ok defaultSlot

end SlotTemplate
