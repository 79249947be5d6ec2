import SlotTemplate.Dict

/-!
# Files and paths

A file system at one moment, and the paths that lead to its files. A path is resolved step by step:
a step is possible only in a directory, and two dots lead back to the directory above.
-/

namespace SlotTemplate

inductive FileTree where
  | file (contents : ByteArray)
  | directory (entries : Dict FileTree)

namespace FileTree

instance : Inhabited FileTree := ⟨.directory Dict.empty⟩

def emptyDirectory : FileTree := .directory Dict.empty

def entries : FileTree → Dict FileTree
  | .file _ => Dict.empty
  | .directory entries => entries

/-- Makes the directories of a path of names, unless a file is in the way. -/
def makeDirectory? : List String → FileTree → Option FileTree
  | _, .file _ => none
  | [], t => some t
  | name :: names, .directory entries =>
    (makeDirectory? names ((entries.get? name).getD emptyDirectory)).map fun child =>
      .directory (entries.insert name child)

/-- Puts a file at the end of a path of names whose directories are there. A directory at the end
stays. -/
def write (contents : ByteArray) : List String → FileTree → FileTree
  | [name], .directory entries =>
    match entries.get? name with
    | some (.directory _) => .directory entries
    | _ => .directory (entries.insert name (.file contents))
  | name :: names, .directory entries =>
    match entries.get? name with
    | some child => .directory (entries.insert name (write contents names child))
    | none => .directory entries
  | _, t => t

/-- Removes what is at the end of a path of names. -/
def remove : List String → FileTree → FileTree
  | [], t => t
  | [name], t => .directory (t.entries.erase name)
  | name :: names, t =>
    match t.entries.get? name with
    | some child => .directory (t.entries.insert name (remove names child))
    | none => t

end FileTree

namespace Path

/-- The parts of a path between its slashes. -/
def segments (path : String) : List String := (path.toList.splitOn '/').map String.ofList

def isAbsolute (path : String) : Bool := path.startsWith "/"

/-- A path below another one; an absolute path stays as it is. -/
def join (base path : String) : String :=
  if isAbsolute path || base.isEmpty then path
  else if base.endsWith "/" then base ++ path
  else base ++ "/" ++ path

/-- Whether a path stays below the directory it starts from. -/
def staysInside (path : String) : Bool := !isAbsolute path && (segments path).all (· != "..")

/-- Whether a path ends with the name of a file or directory. -/
def endsWithName (path : String) : Bool :=
  match (segments path).getLast? with
  | some s => s != "" && s != "." && s != ".."
  | none => false

/-- Drops the segments at the end, given in reverse, that do not lead on; the first one stays. -/
def trimSegments : List String → List String
  | [] => []
  | [first] => [first]
  | s :: ss => if s = "" ∨ s = "." then trimSegments ss else s :: ss

/-- The path of the directory that holds what a path leads to. -/
def parent? (path : String) : Option String :=
  match trimSegments (segments path).reverse with
  | [] => none
  | [first] => if first.isEmpty then none else some ""
  | _ :: rest =>
    match trimSegments rest with
    | [""] => some "/"
    | rest => some (String.intercalate "/" rest.reverse)

end Path

/-- A file system and the names that lead to the working directory. -/
structure Files where
  root : FileTree
  working : List String

namespace Files

/-- No files, and a working directory. -/
def inDirectory (working : List String) : Files :=
  ⟨(FileTree.emptyDirectory.makeDirectory? working).getD FileTree.emptyDirectory, working⟩

/-- Takes steps from a place whose directories above are given, the nearest first. -/
def walk (here : FileTree) (above : List FileTree) : List String → Option FileTree
  | [] => some here
  | s :: ss =>
    match here with
    | .file _ => none
    | .directory entries =>
      if s = "" ∨ s = "." then walk here above ss
      else if s = ".." then
        match above with
        | [] => walk here [] ss
        | up :: above => walk up above ss
      else match entries.get? s with
        | some child => walk child (here :: above) ss
        | none => none

/-- What a path leads to. -/
def find? (f : Files) (path : String) : Option FileTree :=
  if path.isEmpty then none
  else if Path.isAbsolute path then walk f.root [] (Path.segments path)
  else walk f.root [] (f.working ++ Path.segments path)

def isFile (f : Files) (path : String) : Bool :=
  match f.find? path with
  | some (.file _) => true
  | _ => false

/-- The text of a file, if there is one and it is valid UTF-8. -/
def text? (f : Files) (path : String) : Option String :=
  match f.find? path with
  | some (.file contents) => String.fromUTF8? contents
  | _ => none

/-- The steps from the root to the end of a path. -/
def steps (f : Files) (path : String) : List String :=
  let steps := (Path.segments path).filter fun s => s ≠ "" ∧ s ≠ "."
  if Path.isAbsolute path then steps else f.working ++ steps

/-- The names that steps lead through; two dots lead back by one. -/
def namesOf (steps : List String) : List String :=
  steps.foldl (fun names s => if s = ".." then names.dropLast else names ++ [s]) []

/-- Makes the directories that steps lead through, from the end of a path of names on, and says
whether no file is in the way. -/
def makeWay (root : FileTree) (names : List String) : List String → FileTree × Bool
  | [] => (root, true)
  | s :: ss =>
    if s = ".." then makeWay root names.dropLast ss
    else match root.makeDirectory? (names ++ [s]) with
      | some root => makeWay root (names ++ [s]) ss
      | none => (root, false)

/-- Puts a file at the end of a path; the directories that the path leads through are made. Nothing
is put where a directory is or where a file is in the way. -/
def write (f : Files) (path : String) (contents : ByteArray) : Files :=
  let steps := f.steps path
  match makeWay f.root [] steps.dropLast with
  | (root, true) =>
    if Path.endsWithName path then { f with root := root.write contents (namesOf steps) }
    else { f with root }
  | (root, false) => { f with root }

/-- Removes the file at the end of a path; a directory stays. -/
def remove (f : Files) (path : String) : Files :=
  if f.isFile path then { f with root := f.root.remove (namesOf (f.steps path)) } else f

end Files

end SlotTemplate
