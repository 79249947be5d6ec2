import SlotTemplate.Engine
import SlotTemplate.Expr.Eval

/-!
# Rendering

Rendering a tree writes text, step by step, while frames come and go on the scope. An invocation
renders its slots in the caller's scope and its template in a scope of its own, one level deeper.
-/

namespace SlotTemplate

/-- The state of the rendering of one template: its variables, what is written so far and the
compiled templates. -/
structure Pass where
  scope : Scope
  out : String
  cache : Cache

/-- A step of rendering. A step that fails leaves a state, too. -/
abbrev Rendering (α : Type) := ExceptT RenderError (StateM Pass) α

namespace Rendering

def write (text : String) : Rendering Unit :=
  modify fun p => { p with out := p.out ++ text }

def eval (e : Expr) : Rendering Value := do return e.eval (← get).scope

/-- Runs a step with a frame on the scope, which is gone afterwards. -/
def withFrame (frame : Data) (body : Rendering Unit) : Rendering Unit := fun p =>
  let (result, q) := body { p with scope := p.scope.push frame }
  (result, { q with scope := q.scope.pop })

/-- What a step writes, in place of writing it. -/
def capture (body : Rendering Unit) : Rendering String := fun p =>
  let (result, q) := body { p with out := "" }
  (result.map fun _ => q.out, { q with out := p.out })

/-- What a step writes in a scope of its own. -/
def isolate (data : Data) (body : Rendering Unit) : Rendering String := fun p =>
  let (result, q) := body ⟨.ofData data, "", p.cache⟩
  (result.map fun _ => q.out, { p with cache := q.cache })

/-- The text of a slot, if the scope is that of a component's template and the slot is filled. -/
def filledSlot? (scope : Scope) (name : String) : Option String :=
  match scope.get? "slots" with
  | some (.slots s) => if s.isFilled name then some (s.get name) else none
  | _ => none

/-- The variables of one run of a loop's body. -/
def loopFrame (variableName : String) (index total : Nat) (item : Value) : Data :=
  let forloop := Dict.ofList
    [("counter", .int (Int64.ofNat (index + 1))), ("counter0", .int (Int64.ofNat index)),
      ("first", .bool (index == 0)), ("last", .bool (index + 1 == total))]
  (Dict.ofList [("forloop", .map forloop)]).insert variableName item

/-- Runs a body for each item, from an index on. -/
def forItems (variableName : String) (total : Nat) (body : Rendering Unit) :
    Nat → List Value → Rendering Unit
  | _, [] => pure ()
  | index, item :: items => do
    withFrame (loopFrame variableName index total item) body
    forItems variableName total body (index + 1) items

/-- How a component is rendered from its slots and arguments. -/
abbrev Invoke := Component → SlotMap → Data → Rendering Unit

end Rendering

open Rendering

mutual

def Node.render (autoescape : Bool) (invoke : Invoke) : Node → Rendering Unit
  | .text s => write s
  | .variable e => do write ((← eval e).render autoescape)
  | .conditional negated condition thenBranch elseBranch => do
    if (← eval condition).isTruthy != negated then renderAll autoescape invoke thenBranch
    else renderAll autoescape invoke elseBranch
  | .loop variableName iterable body empty => do
    let items := (← eval iterable).items
    if items.isEmpty then renderAll autoescape invoke empty
    else forItems variableName items.length (renderAll autoescape invoke body) 0 items
  | .invocation component _ args slots _ => do
    let filled ← renderSlots autoescape invoke slots SlotMap.empty
    let scope := (← get).scope
    invoke component filled (Dict.ofList (args.map fun a => (a.name, a.value.eval scope)))
  | .marker name content _ _ => do
    match filledSlot? (← get).scope name with
    | some text => write text
    | none => renderAll autoescape invoke content
  | .slotOutput name => do write ((filledSlot? (← get).scope name).getD "")
  | .empty => pure ()

/-- Renders nodes one after another. -/
def renderAll (autoescape : Bool) (invoke : Invoke) : List Node → Rendering Unit
  | [] => pure ()
  | node :: nodes => do
    node.render autoescape invoke
    renderAll autoescape invoke nodes

/-- Renders slots in order and adds their texts to those given. -/
def renderSlots (autoescape : Bool) (invoke : Invoke) : List Slot → SlotMap → Rendering SlotMap
  | [], filled => pure filled
  | slot :: slots, filled => do
    let (name, text) ← slot.render autoescape invoke
    renderSlots autoescape invoke slots (filled.insert name text)

/-- The name of a slot and the text that it renders to. -/
def Slot.render (autoescape : Bool) (invoke : Invoke) : Slot → Rendering (String × String)
  | ⟨name, content⟩ => do return (name, ← capture (renderAll autoescape invoke content))

end

namespace Engine

/-- A template by name. -/
def getTemplate (e : Engine) (files : Files) (name : String) : Rendering Template := fun p =>
  let (result, cache) := e.fetch files name p.cache
  (result, { p with cache })

/-- Renders a component: its variables are made, its template is fetched, and `nested` renders the
template. -/
def invoke (e : Engine) (files : Files) (nested : Template → Data → Rendering String)
    (c : Component) (slots : SlotMap) (args : Data) : Rendering Unit := do
  match c.context slots args with
  | .error cause => throw (.validation c.name cause)
  | .ok data =>
    let template ← e.getTemplate files (c.templateName e.config.extension)
    write (← nested template data)

/-- The text of a template in a scope of its own, with at most `levels` templates inside one
another, itself included. -/
def renderLevels (e : Engine) (files : Files) : Nat → Template → Data → Rendering String
  | 0, t, _ => throw (.recursionLimit t.name e.config.maxDepth)
  | levels + 1, t, data =>
    isolate data
      (renderAll e.config.autoescape (e.invoke files (e.renderLevels files levels)) t.nodes)

/-- The text of a compiled template, and the engine with the templates compiled meanwhile. -/
def renderTemplate (e : Engine) (files : Files) (t : Template) (data : Data) :
    Except RenderError String × Engine :=
  let (result, p) := e.renderLevels files (e.config.maxDepth + 1) t data ⟨.empty, "", e.cache⟩
  (result, { e with cache := p.cache })

/-- The text of a template by name. -/
def render (e : Engine) (files : Files) (name : String) (data : Data) :
    Except RenderError String × Engine :=
  match e.fetch files name e.cache with
  | (.error err, cache) => (.error err, { e with cache })
  | (.ok t, cache) => { e with cache }.renderTemplate files t data

/-- The text of a template that is given by its source. -/
def renderSource (e : Engine) (files : Files) (source : String) (data : Data) :
    Except RenderError String × Engine :=
  match e.compileNamed unnamed source with
  | .error err => (.error (.compile unnamed err), e)
  | .ok t => e.renderTemplate files t data

end Engine

/-- The text of a source with the builtin tags alone. -/
def render (source : String) (data : Data) : Except RenderError String :=
  (Engine.default.renderSource (Files.inDirectory []) source data).1

end SlotTemplate
