/-!
# The command line

What the arguments of the command ask for. Options stand before or after the template, in a short or
a long form; two dashes end them.
-/

namespace SlotTemplate.Command

/-- A rendering, or a check, that the command is asked for. -/
structure Options where
  /-- A file, or the name of a template. -/
  template : String
  /-- The file of the manifest. -/
  config? : Option String
  /-- Template directories that come after those of the manifest. -/
  directories : List String
  /-- Variables, as a JSON object. -/
  data? : Option String
  /-- Whether the template is compiled but not rendered. -/
  check : Bool

/-- Options that take no value. -/
inductive Flag where
  | check
  | verbose
  | help
deriving DecidableEq

/-- Options that take a value. -/
inductive Setting where
  | config
  | directory
  | data
deriving DecidableEq

inductive UsageError where
  | unknownArgument (text : String)
  | unexpectedValue (option : String)
  | missingValue (setting : Setting)
  | emptyValue (setting : Setting)
  | repeated (option : String)
  | noTemplate

/-- Why the arguments ask for nothing to be rendered. -/
inductive Stop where
  | help
  | usage (e : UsageError)

namespace Flag

def name : Flag → String
  | .check => "check"
  | .verbose => "verbose"
  | .help => "help"

def ofLong? (s : String) : Option Flag := [check, verbose, help].find? (·.name == s)

def ofShort? : Char → Option Flag
  | 'v' => some .verbose
  | 'h' => some .help
  | _ => none

end Flag

namespace Setting

def name : Setting → String
  | .config => "config"
  | .directory => "templates"
  | .data => "data"

def ofLong? (s : String) : Option Setting := [config, directory, data].find? (·.name == s)

def ofShort? : Char → Option Setting
  | 'c' => some .config
  | 't' => some .directory
  | 'd' => some .data
  | _ => none

end Setting

def UsageError.message : UsageError → String
  | .unknownArgument text => "unexpected argument '" ++ text ++ "' found"
  | .unexpectedValue option => "unexpected value for '--" ++ option ++ "'"
  | .missingValue s => "a value is required for '--" ++ s.name ++ "' but none was supplied"
  | .emptyValue s => "a value is required for '--" ++ s.name ++ "' but none was supplied"
  | .repeated option => "the argument '--" ++ option ++ "' cannot be used multiple times"
  | .noTemplate => "the following required arguments were not provided: <TEMPLATE>"

/-- What the arguments read so far say. -/
structure Draft where
  template? : Option String
  config? : Option String
  directories : List String
  data? : Option String
  flags : List Flag

namespace Draft

def empty : Draft := ⟨none, none, [], none, []⟩

def setTemplate (d : Draft) (template : String) : Except Stop Draft :=
  if d.template?.isSome then .error (.usage (.unknownArgument template))
  else .ok { d with template? := some template }

/-- Sets a flag, which may be given once. -/
def setFlag (d : Draft) (f : Flag) : Except Stop Draft :=
  if f = .help then .error .help
  else if d.flags.contains f then .error (.usage (.repeated f.name))
  else .ok { d with flags := f :: d.flags }

/-- Takes the value of a setting. Paths are not empty, and only directories may be given again. -/
def set (d : Draft) (s : Setting) (value : String) : Except Stop Draft :=
  match s with
  | .config =>
    if value.isEmpty then .error (.usage (.emptyValue s))
    else if d.config?.isSome then .error (.usage (.repeated s.name))
    else .ok { d with config? := some value }
  | .directory =>
    if value.isEmpty then .error (.usage (.emptyValue s))
    else .ok { d with directories := d.directories ++ [value] }
  | .data =>
    if d.data?.isSome then .error (.usage (.repeated s.name))
    else .ok { d with data? := some value }

/-- Reads short options that share a dash. What follows the letter of a setting is its value, with
or without an equals sign; a setting at the end awaits its value. -/
def readShort (d : Draft) : List Char → Except Stop (Draft × Option Setting)
  | [] => .ok (d, none)
  | c :: cs =>
    match Flag.ofShort? c, Setting.ofShort? c with
    | some f, _ => (d.setFlag f).bind fun d => d.readShort cs
    | none, some s =>
      match cs with
      | [] => .ok (d, some s)
      | '=' :: value => (d.set s (String.ofList value)).map (·, none)
      | value => (d.set s (String.ofList value)).map (·, none)
    | none, none => .error (.usage (.unknownArgument (String.ofList ['-', c])))

/-- Reads a long option without its dashes. A setting without an equals sign awaits its value. -/
def readLong (d : Draft) (cs : List Char) : Except Stop (Draft × Option Setting) :=
  let name := String.ofList (cs.takeWhile (· != '='))
  match Flag.ofLong? name, Setting.ofLong? name, cs.dropWhile (· != '=') with
  | some f, _, [] => (d.setFlag f).map (·, none)
  | some f, _, _ => .error (.usage (.unexpectedValue f.name))
  | none, some s, [] => .ok (d, some s)
  | none, some s, _ :: value => (d.set s (String.ofList value)).map (·, none)
  | none, none, _ => .error (.usage (.unknownArgument ("--" ++ name)))

/-- Reads arguments; the first one may be the value that a setting awaits. What looks like an option
is no such value. -/
def read (d : Draft) (awaiting : Option Setting) : List String → Except Stop Draft
  | [] =>
    match awaiting with
    | some s => .error (.usage (.missingValue s))
    | none => .ok d
  | arg :: args =>
    match arg.toList, awaiting with
    | '-' :: _ :: _, some s => .error (.usage (.missingValue s))
    | ['-', '-'], none => args.foldlM setTemplate d
    | '-' :: '-' :: cs, none => (d.readLong cs).bind fun (d, awaiting) => d.read awaiting args
    | '-' :: c :: cs, none => (d.readShort (c :: cs)).bind fun (d, awaiting) => d.read awaiting args
    | _, some s => (d.set s arg).bind fun d => d.read none args
    | _, none => (d.setTemplate arg).bind fun d => d.read none args

end Draft

/-- What arguments ask for. -/
def Options.parse (args : List String) : Except Stop Options :=
  (Draft.empty.read none args).bind fun d =>
    match d.template? with
    | none => .error (.usage .noTemplate)
    | some template =>
      .ok ⟨template, d.config?, d.directories, d.data?, d.flags.contains .check⟩

def usage : String := "Usage: slot-template [OPTIONS] <TEMPLATE>\n"

def help : String :=
  "Render templates with reusable slotted components\n\n" ++ usage ++ "
Arguments:
  <TEMPLATE>  Template file, or a template name looked up in the template directories

Options:
  -c, --config <CONFIG>        Manifest declaring engine settings and components (TOML format)
  -t, --templates <TEMPLATES>  Template directory; may be given more than once
  -d, --data <DATA>            Context data as a JSON object
      --check                  Only compile the template and report errors
  -v, --verbose                Log debug output to stderr
  -h, --help                   Print help
"

end SlotTemplate.Command
