import SlotTemplate.Manifest
import SlotTemplate.Toml.Reader
import SlotTemplate.Toml.Shape

/-!
# Reading manifests

Manifests are written in TOML. No fields but the known ones are accepted, and the first fault in the
order of the text counts.
-/

namespace SlotTemplate

/-- Why there is no manifest. -/
inductive ManifestError where
  /-- There is no such file, or it holds no text. -/
  | unreadable
  | notToml
  | shape (error : Toml.ShapeError)

def ManifestError.message : ManifestError → String
  | .unreadable => "Failed to read manifest file"
  | .notToml => "Failed to parse manifest TOML"
  | .shape e => "Failed to parse manifest TOML: " ++ e.message

namespace Manifest

open Toml

def configFields : List (RecordField EngineConfig) :=
  [⟨"autoescape", fun c t => return { c with autoescape := ← readBool t }⟩,
    ⟨"template_dirs", fun c t => return { c with templateDirs := ← readList readPath t }⟩,
    ⟨"extension", fun c t => return { c with extension := ← readString t }⟩,
    ⟨"cache_templates", fun c t => return { c with cacheTemplates := ← readBool t }⟩,
    ⟨"max_depth", fun c t => return { c with maxDepth := ← readNat t }⟩]

def readConfig : Toml → Reading EngineConfig :=
  readRecord "struct EngineConfig" configFields .default

def formChoices : List (String × Forms) :=
  [Forms.both, Forms.inline, Forms.block].map fun f => (f.name, f)

def declarationFields : List (RecordField Declaration) :=
  [⟨"name", fun d t => return { d with name := ← readString t }⟩,
    ⟨"namespace", fun d t => return { d with space? := some (← readString t) }⟩,
    ⟨"template", fun d t => return { d with template? := some (← readString t) }⟩,
    ⟨"forms", fun d t => return { d with forms := ← readChoice formChoices t }⟩,
    ⟨"required", fun d t => return { d with required := ← readList readString t }⟩,
    ⟨"optional", fun d t => return { d with optional := ← readData t }⟩,
    ⟨"extra", fun d t => return { d with extra? := some (← readBool t) }⟩]

/-- A component, which must have a name. -/
def readDeclaration (t : Toml) : Reading Declaration := do
  let record := "struct ComponentEntry"
  let d ← readRecord record declarationFields ⟨"", none, none, .both, [], Dict.empty, none⟩ t
  requireField record (declarationFields.map (·.name)) 0 t
  return d

def manifestFields : List (RecordField Manifest) :=
  [⟨"engine", fun m t => return { m with config := ← readConfig t }⟩,
    ⟨"component", fun m t => return { m with components := ← readList readDeclaration t }⟩]

def ofToml (t : Toml) : Reading Manifest := readRecord "struct Manifest" manifestFields .default t

def ofText (text : String) : Except ManifestError Manifest :=
  match Toml.parse? text with
  | none => .error .notToml
  | some t => (ofToml t).mapError .shape

/-- The manifest of a file; its template directories are relative to the file. -/
def ofFile (files : Files) (path : String) : Except ManifestError Manifest :=
  match files.text? path with
  | none => .error .unreadable
  | some text =>
    (ofText text).map fun m =>
      match Path.parent? path with
      | some base => m.relativeTo base
      | none => m

end Manifest

end SlotTemplate
