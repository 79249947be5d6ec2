import SlotTemplate.Component

/-!
# Stock behaviors

Ready-made behaviors of components.
-/

namespace SlotTemplate.Behavior

/-- Passes the arguments to the template. -/
def passThrough : Behavior := ⟨"PassThrough", .any, fun _ args => .ok args⟩

/-- Passes nothing to the template. -/
def dropArgs : Behavior := ⟨"DropArgs", .any, fun _ _ => .ok Dict.empty⟩

/-- Tells the template which slots and arguments it was given. -/
def slotReport : Behavior :=
  ⟨"SlotReport", .any, fun slots args =>
    let args := args.insert "declared" (.list (slots.names.map .string))
    let args := args.insert "filled" (.list ((slots.names.filter slots.isFilled).map .string))
    let args := args.insert "has_title" (.bool (slots.contains "title"))
    .ok (args.insert "args" (.list (args.keys.map .string)))⟩

/-- Demands a message and has a level. -/
def alertBox : Behavior :=
  ⟨"AlertBox", (Signature.strict.required "message").optional "level" (.string "info"),
    fun _ args => .ok args⟩

/-- Refuses to render without a summary. -/
def rejecting (reason : String) : Behavior :=
  ⟨"Rejecting", .any, fun slots args =>
    if slots.isFilled "summary" then .ok args else .error (.custom reason)⟩

end SlotTemplate.Behavior

namespace SlotTemplate.Component

/-- A component that passes its arguments to its template. -/
def named (name : String) : Component := (ofBehavior .passThrough).withName name

end SlotTemplate.Component
