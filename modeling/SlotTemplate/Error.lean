import SlotTemplate.Argument.Token

/-!
# Errors

Why a tag, a template or a rendering is rejected, and the messages that say so.
-/

namespace SlotTemplate

/-- What could have stood where reading stopped. -/
inductive Expectation where
  | token (t : Argument.Token)
  | endOfTag
deriving DecidableEq

def Expectation.describe : Expectation → String
  | .token t => t.describe
  | .endOfTag => "end of tag"

/-- A text in single quotes. -/
def singleQuoted (s : String) : String := "'" ++ s ++ "'"

/-- What is wrong inside a single tag or variable. -/
inductive TagFault where
  | unexpectedCharacter
  /-- A token, or the end, that nothing allows here. -/
  | unexpected (found : Option Argument.Token) (expected : List Expectation)
  | unknownFilter (name : String)
  | filterNeedsArgument (name : String)
  | filterTakesNoArgument (name : String)
  | repeatedArgument (name : String)
  | unknownLibrary (name : String)
  | noLibraryNamed
  | extraWords (words : List String)
  | repeatedSlot (name : String)
deriving DecidableEq

/-- A fault and the tag that has it. -/
structure TagError where
  /-- The tag's name as written, or the whole variable. -/
  tag : String
  span : Span
  line : Nat
  fault : TagFault
deriving DecidableEq

namespace TagError

/-- The fault in words. -/
def text (e : TagError) : String :=
  match e.fault with
  | .unexpectedCharacter => "Unexpected character"
  | .unexpected (some t) _ => "Unexpected " ++ t.describe
  | .unexpected none _ => "Unexpected end of tag"
  | .unknownFilter name => "Invalid filter: " ++ singleQuoted name
  | .filterNeedsArgument name => "Filter " ++ singleQuoted name ++ " requires an argument"
  | .filterTakesNoArgument name => "Filter " ++ singleQuoted name ++ " does not accept an argument"
  | .repeatedArgument name =>
    singleQuoted e.tag ++ " received multiple values for keyword argument " ++ singleQuoted name
  | .unknownLibrary name => singleQuoted name ++ " is not a registered tag library"
  | .noLibraryNamed => "'load' tag requires at least one library name"
  | .extraWords words =>
    singleQuoted e.tag ++ " tag got unexpected arguments [" ++
      String.intercalate ", " (words.map singleQuoted) ++ "]"
  | .repeatedSlot name => "Slot " ++ singleQuoted name ++ " is declared more than once"

/-- What could have stood there instead. -/
def expected (e : TagError) : List String :=
  match e.fault with
  | .unexpected _ expected => expected.map Expectation.describe
  | _ => []

def message (e : TagError) : String :=
  e.text ++ " in " ++ singleQuoted e.tag ++ " on line " ++ toString e.line

end TagError

/-- Why a source does not compile. -/
inductive CompileError where
  /-- A tag that nothing binds; `expected` are the tags that would end the innermost block. -/
  | unknownTag (name : String) (span : Span) (line : Nat) (expected : List String)
  /-- A block that the source leaves open. -/
  | unclosedTag (name : String) (span : Span) (line : Nat) (expected : List String)
  | tag (error : TagError)
deriving DecidableEq

namespace CompileError

def message : CompileError → String
  | .unknownTag name _ line expected =>
    "Invalid block tag on line " ++ toString line ++ ": " ++ singleQuoted name ++
      if expected.isEmpty then ""
      else ", expected " ++ String.intercalate " or " (expected.map singleQuoted)
  | .unclosedTag name _ line expected =>
    "Unclosed tag on line " ++ toString line ++ ": " ++ singleQuoted name ++
      ". Looking for one of: " ++ String.intercalate ", " expected
  | .tag e => e.message

def span : CompileError → Span
  | .unknownTag _ span _ _ => span
  | .unclosedTag _ span _ _ => span
  | .tag e => e.span

def line : CompileError → Nat
  | .unknownTag _ _ line _ => line
  | .unclosedTag _ _ line _ => line
  | .tag e => e.line

end CompileError

/-- Why arguments do not suit a component. -/
inductive BindingError where
  | missing (name : String)
  | unexpected (name : String)
  /-- A component's own reason. -/
  | custom (reason : String)
deriving DecidableEq

def BindingError.message : BindingError → String
  | .missing name => "missing required argument " ++ singleQuoted name
  | .unexpected name => "got an unexpected keyword argument " ++ singleQuoted name
  | .custom reason => reason

/-- A template that no source has, and where it was looked for. -/
structure NotFound where
  name : String
  tried : List String
deriving DecidableEq

def NotFound.message (e : NotFound) : String := "template not found: " ++ e.name

/-- Why a rendering fails. -/
inductive RenderError where
  /-- The arguments of an invocation do not suit the component. -/
  | validation (component : String) (cause : BindingError)
  | notFound (error : NotFound)
  /-- A template that was loaded does not compile. -/
  | compile (name : String) (error : CompileError)
  /-- Templates nest deeper than the limit. -/
  | recursionLimit (template : String) (limit : Nat)
deriving DecidableEq

def RenderError.message : RenderError → String
  | .validation component cause => component ++ " component " ++ cause.message
  | .notFound e => e.message
  | .compile name e => "error compiling template " ++ singleQuoted name ++ ": " ++ e.message
  | .recursionLimit template limit =>
    "recursion limit of " ++ toString limit ++ " exceeded while rendering " ++ singleQuoted template

end SlotTemplate
