import SlotTemplate.Component.Stock
import SlotTemplate.Engine

/-!
# Manifests

A manifest declares the settings of an engine and components that pass their arguments on to their
templates.
-/

namespace SlotTemplate

/-- The forms of tag that a component is registered with. -/
inductive Forms where
  | both
  | inline
  | block
deriving DecidableEq

def Forms.name : Forms → String
  | .both => "both"
  | .inline => "inline"
  | .block => "block"

/-- A component as a manifest declares it. -/
structure Declaration where
  name : String
  space? : Option String
  template? : Option String
  forms : Forms
  required : List String
  /-- Optional arguments and their defaults. -/
  optional : Data
  /-- Whether undeclared arguments are accepted, if that is said. -/
  extra? : Option Bool

namespace Declaration

/-- Required arguments in order, then the optional ones by name. Where nothing is declared, anything
is accepted. -/
def signature (d : Declaration) : Signature :=
  let declared := !d.required.isEmpty || !d.optional.isEmpty
  let start := Signature.strict.withExtra (d.extra?.getD !declared)
  d.optional.entries.foldl (fun s e => s.optional e.1 e.2)
    (d.required.foldl Signature.required start)

def component (d : Declaration) : Component :=
  let c := (Component.named d.name).withSignature d.signature
  let c := match d.space? with
    | some space => c.withNamespace space
    | none => c
  match d.template? with
  | some template => c.withTemplate template
  | none => c

/-- Registers the component in its forms. -/
def register (l : Library) (d : Declaration) : Library :=
  match d.forms with
  | .both => l.component d.component
  | .inline => l.inlineComponent d.component
  | .block => l.blockComponent d.component

end Declaration

structure Manifest where
  config : EngineConfig
  components : List Declaration

namespace Manifest

def default : Manifest := ⟨.default, []⟩

instance : Inhabited Manifest := ⟨default⟩

/-- All declared components. -/
def library (m : Manifest) : Library := m.components.foldl Declaration.register .empty

/-- An engine on which the declared components are builtin. -/
def engine (m : Manifest) : Engine := (Engine.ofConfig m.config).addBuiltins m.library

/-- Adds template directories that are searched after the declared ones. -/
def addDirectories (m : Manifest) (directories : List String) : Manifest :=
  { m with config := { m.config with templateDirs := m.config.templateDirs ++ directories } }

/-- Takes relative template directories to be relative to a directory. -/
def relativeTo (m : Manifest) (base : String) : Manifest :=
  { m with config := { m.config with templateDirs := m.config.templateDirs.map (Path.join base) } }

end Manifest

end SlotTemplate
