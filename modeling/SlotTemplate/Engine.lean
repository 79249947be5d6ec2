import SlotTemplate.Files
import SlotTemplate.Parser

/-!
# Engines

An engine holds the tag libraries, the sources that templates are found in and the templates that
were compiled so far.

* `templateSource_memory`: a template in memory comes before all other sources.
-/

namespace SlotTemplate

structure EngineConfig where
  /-- Whether what variables print is escaped. -/
  autoescape : Bool
  /-- Directories with templates, searched in order. -/
  templateDirs : List String
  /-- The extension of default template names. -/
  extension : String
  /-- Whether compiled templates are kept. -/
  cacheTemplates : Bool
  /-- How deep renderings of templates may nest. -/
  maxDepth : Nat

namespace EngineConfig

def default : EngineConfig := ⟨true, [], Component.defaultExtension, true, 64⟩

instance : Inhabited EngineConfig := ⟨default⟩

end EngineConfig

/-- A place where templates are found. -/
structure TemplateSource where
  /-- The text of a template by name, as the files are at the moment. -/
  text? : Files → String → Option String
  /-- Where the source looks for a name. -/
  location : String → String

/-- The templates below a directory. A name that would lead out of it has none. -/
def TemplateSource.directory (root : String) : TemplateSource where
  text? files name := if Path.staysInside name then files.text? (Path.join root name) else none
  location := Path.join root

/-- Compiled templates by name. -/
abbrev Cache := Dict Template

structure Engine where
  config : EngineConfig
  builtins : Library
  libraries : Dict Library
  /-- The texts of templates in memory. -/
  memory : Dict String
  /-- What is searched after the memory, in order. -/
  sources : List TemplateSource
  cache : Cache

namespace Engine

def ofConfig (config : EngineConfig) : Engine :=
  ⟨config, .builtin, Dict.empty, Dict.empty, config.templateDirs.map .directory, Dict.empty⟩

def default : Engine := ofConfig .default

instance : Inhabited Engine := ⟨default⟩

/-- Makes the tags of a library available to every template. -/
def addBuiltins (e : Engine) (l : Library) : Engine := { e with builtins := e.builtins.merge l }

/-- Makes a library available to the templates that load it. -/
def addLibrary (e : Engine) (name : String) (l : Library) : Engine :=
  { e with libraries := e.libraries.insert name l }

/-- Adds a source that is searched last. -/
def addSource (e : Engine) (source : TemplateSource) : Engine :=
  { e with sources := e.sources ++ [source] }

def addDirectory (e : Engine) (directory : String) : Engine := e.addSource (.directory directory)

/-- Puts a template into memory; one that was compiled under its name is forgotten. -/
def addTemplate (e : Engine) (name source : String) : Engine :=
  { e with memory := e.memory.insert name source, cache := e.cache.erase name }

def clearCache (e : Engine) : Engine := { e with cache := Dict.empty }

/-- The name of templates that have none. -/
def unnamed : String := "<string>"

def compileNamed (e : Engine) (name source : String) : Except CompileError Template :=
  (compileSource e.builtins e.libraries source).map (⟨name, ·⟩)

/-- The text of a template: from memory, or from the first source that has it. -/
def templateSource (e : Engine) (files : Files) (name : String) : Except NotFound String :=
  match e.memory.get? name with
  | some text => .ok text
  | none =>
    match e.sources.findSome? (·.text? files name) with
    | some text => .ok text
    | none => .error ⟨name, ("<memory>/" ++ name) :: e.sources.map (·.location name)⟩

theorem templateSource_memory {e : Engine} {name source : String} (files : Files)
    (h : e.memory.get? name = some source) : e.templateSource files name = .ok source := by
  simp [templateSource, h]

/-- Loads and compiles a template. -/
def load (e : Engine) (files : Files) (name : String) : Except RenderError Template :=
  match e.templateSource files name with
  | .error err => .error (.notFound err)
  | .ok source => (e.compileNamed name source).mapError (.compile name)

/-- A template by name, and the cache afterwards. With caching on, a template is loaded once. -/
def fetch (e : Engine) (files : Files) (name : String) (cache : Cache) :
    Except RenderError Template × Cache :=
  if e.config.cacheTemplates then
    match cache.get? name with
    | some t => (.ok t, cache)
    | none =>
      match e.load files name with
      | .ok t => (.ok t, cache.insert name t)
      | .error err => (.error err, cache)
  else (e.load files name, cache)

end Engine

end SlotTemplate
