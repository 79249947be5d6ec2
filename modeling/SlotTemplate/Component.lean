import SlotTemplate.Signature
import SlotTemplate.Text.Snake

/-!
# Components

A component names a template, the tags that invoke it and the arguments it accepts, and makes the
variables of the template from the rendered slots and the arguments.
-/

namespace SlotTemplate

/-- What a component does, and the name of its kind. -/
structure Behavior where
  kind : String
  signature : Signature
  /-- The variables of the template from the rendered slots and the bound arguments. -/
  produce : SlotMap → Data → Except BindingError Data

structure Component where
  name : String
  space? : Option String
  /-- The template, if it has a name of its own. -/
  template? : Option String
  /-- The extension of the default template name, if it differs from the engine's. -/
  extension? : Option String
  inlinePattern : String
  openPattern : String
  closePattern : String
  signature : Signature
  produce : SlotMap → Data → Except BindingError Data

namespace Component

/-- A pattern with a name in place of each occurrence of its placeholder. -/
def instantiate (name : List Char) : List Char → List Char
  | '{' :: 'n' :: 'a' :: 'm' :: 'e' :: '}' :: rest => name ++ instantiate name rest
  | c :: rest => c :: instantiate name rest
  | [] => []

/-- A component that is named after the kind of its behavior. -/
def ofBehavior (b : Behavior) : Component where
  name := Text.snake b.kind
  space? := none
  template? := none
  extension? := none
  inlinePattern := "{name}/"
  openPattern := "{name}"
  closePattern := "/{name}"
  signature := b.signature
  produce := b.produce

def withName (c : Component) (name : String) : Component := { c with name }

/-- Sets the namespace; the empty one is none. -/
def withNamespace (c : Component) (space : String) : Component :=
  { c with space? := if space.isEmpty then none else some space }

def withTemplate (c : Component) (template : String) : Component :=
  { c with template? := some template }

def withExtension (c : Component) (extension : String) : Component :=
  { c with extension? := some extension }

def withInlinePattern (c : Component) (pattern : String) : Component :=
  { c with inlinePattern := pattern }

def withBlockPatterns (c : Component) (opening closing : String) : Component :=
  { c with openPattern := opening, closePattern := closing }

def withSignature (c : Component) (signature : Signature) : Component := { c with signature }

/-- The name behind its namespace. -/
def qualifiedName (c : Component) : String :=
  match c.space? with
  | some space => space ++ ":" ++ c.name
  | none => c.name

/-- The tag name that a pattern stands for. -/
def tagName (c : Component) (pattern : String) : String :=
  String.ofList (instantiate c.qualifiedName.toList pattern.toList)

def inlineTag (c : Component) : String := c.tagName c.inlinePattern

def openTag (c : Component) : String := c.tagName c.openPattern

def closeTag (c : Component) : String := c.tagName c.closePattern

/-- The extension of templates where nothing else is said. -/
def defaultExtension : String := "html"

/-- The template's name, with an extension for the case that the component has none. -/
def templateName (c : Component) (extension : String) : String :=
  match c.template? with
  | some template => template
  | none =>
    let file := c.name ++ "." ++ c.extension?.getD extension
    match c.space? with
    | some space => "components/" ++ space ++ "/" ++ file
    | none => "components/" ++ file

/-- The variables of the template. What the component produces goes over the variables `slot` and
`slots`. -/
def context (c : Component) (slots : SlotMap) (args : Data) : Except BindingError Data :=
  match c.signature.bind args with
  | .error e => .error e
  | .ok bound =>
    match c.produce slots bound with
    | .error e => .error e
    | .ok data =>
      let reserved := Dict.ofList
        [(defaultSlot, .safe (slots.get defaultSlot)), ("slots", .slots slots)]
      .ok (reserved.insertAll data.entries)

end Component

end SlotTemplate
