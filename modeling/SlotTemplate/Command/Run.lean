import SlotTemplate.Command
import SlotTemplate.Json.Reader
import SlotTemplate.Manifest.Reader
import SlotTemplate.Render
import SlotTemplate.Report

/-!
# Running the command

The command reads a manifest and variables, finds a template, compiles it and renders it. What it
prints depends on the arguments and the files alone.
-/

namespace SlotTemplate.Command

/-- What the command prints, and its exit code. -/
structure Outcome where
  exitCode : Nat
  output : String
  errors : String

namespace Options

def manifest (o : Options) (files : Files) : Except ManifestError Manifest :=
  match o.config? with
  | some path => (Manifest.ofFile files path).map (·.addDirectories o.directories)
  | none => .ok (Manifest.default.addDirectories o.directories)

/-- The variables that the arguments give, or what is said of them. -/
def givenData (o : Options) : Except String Data :=
  match o.data? with
  | none => .ok Dict.empty
  | some text =>
    match Json.parse? text with
    | none => .error "Error parsing --data: invalid JSON\n"
    | some j =>
      match j.toData? with
      | some data => .ok data
      | none => .error "Error: --data must be a JSON object\n"

/-- The text of the template. A file comes before a template of that name. -/
def source (o : Options) (e : Engine) (files : Files) : Except String String :=
  if files.isFile o.template then
    match files.text? o.template with
    | some text => .ok text
    | none => .error ("Error reading file '" ++ o.template ++ "': no valid UTF-8\n")
  else
    (e.templateSource files o.template).mapError fun err =>
      "Error: " ++ err.message ++ "\n" ++ String.join (err.tried.map ("  tried: " ++ · ++ "\n"))

/-- What is said of a rendering that fails. A template that does not compile is shown with its own
source. -/
def renderFailure (e : Engine) (files : Files) : RenderError → String
  | .compile name err =>
    match e.templateSource files name with
    | .ok source => (err.report source name).text
    | .error _ => "Error: " ++ err.message ++ "\n"
  | err => "Error: " ++ err.message ++ "\n"

/-- The output, or what is said of the failure. -/
def execute (o : Options) (files : Files) : Except String String := do
  let m ← (o.manifest files).mapError fun err =>
    "Error loading manifest '" ++ o.config?.getD "" ++ "': " ++ err.message ++ "\n"
  let e := m.engine
  let data ← o.givenData
  let source ← o.source e files
  let template ← (e.compileNamed o.template source).mapError fun err =>
    (err.report source o.template).text
  if o.check then return ""
  (e.renderTemplate files template data).1.mapError (renderFailure e files)

/-- The files that a run with a manifest may read. -/
def sources (o : Options) (m : Manifest) : List String :=
  let extension := m.config.extension
  let names := o.template :: m.components.map (·.component.templateName extension)
  o.template :: m.config.templateDirs.flatMap fun d =>
    (names.filter Path.staysInside).map (Path.join d)

end Options

/-- What the command does. -/
def run (files : Files) (args : List String) : Outcome :=
  match Options.parse args with
  | .error .help => ⟨0, help, ""⟩
  | .error (.usage err) => ⟨2, "", "error: " ++ err.message ++ "\n\n" ++ usage⟩
  | .ok o =>
    match o.execute files with
    | .ok output => ⟨0, output, ""⟩
    | .error message => ⟨1, "", message⟩

end SlotTemplate.Command
