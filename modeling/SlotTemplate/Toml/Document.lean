import SlotTemplate.Toml

/-!
# TOML tables under construction

Headers and dotted keys build tables piece by piece. What a table was made by decides what may still
extend it: a table under its own header is not written twice, dotted keys extend only tables that
dotted keys made, and a finished value is never extended.
-/

namespace SlotTemplate.Toml

/-- What a table was made by. -/
inductive Origin where
  /-- Its own header, or an element of an array of tables. -/
  | written
  /-- The header of a table below it. -/
  | implied
  /-- A dotted key. -/
  | dotted
deriving DecidableEq

mutual

/-- A table under construction. -/
structure Draft where
  origin : Origin
  entries : List (String × Item)

/-- What a key of such a table holds. -/
inductive Item where
  | value (t : Toml)
  | table (d : Draft)
  /-- An array of tables, the last one first. -/
  | tables (ds : List Draft)

end

namespace Draft

def empty (origin : Origin) : Draft := ⟨origin, []⟩

instance : Inhabited Draft := ⟨empty .written⟩

def find? (d : Draft) (key : String) : Option Item :=
  (d.entries.find? (·.1 == key)).map Prod.snd

/-- Sets what a key holds; a new key comes last. -/
def set (d : Draft) (key : String) (item : Item) : Draft :=
  if (d.find? key).isSome then
    { d with entries := d.entries.map fun e => if e.1 == key then (key, item) else e }
  else { d with entries := d.entries ++ [(key, item)] }

def remove (d : Draft) (key : String) : Draft :=
  { d with entries := d.entries.filter (·.1 != key) }

/-- Changes the table at the end of a path. Missing tables on the way are made by `origin`; of an
array of tables the last one is meant. -/
def update (origin : Origin) (change : Draft → Option Draft) : List String → Draft → Option Draft
  | [], d => change d
  | key :: keys, d =>
    match d.find? key with
    | none => (update origin change keys (empty origin)).map fun child => d.set key (.table child)
    | some (.value _) => none
    | some (.table child) =>
      if origin = .dotted ∧ child.origin = .written then none
      else (update origin change keys child).map fun child => d.set key (.table child)
    | some (.tables []) => none
    | some (.tables (last :: others)) =>
      (update origin change keys last).map fun last => d.set key (.tables (last :: others))

/-- Enters a value under a dotted key. -/
def insert (d : Draft) (path : List String) (key : String) (t : Toml) : Option Draft :=
  d.update .dotted (fun d =>
    if (d.origin == .dotted) == path.isEmpty || (d.find? key).isSome then none
    else some (d.set key (.value t))) path

mutual

def toToml : Draft → Toml
  | ⟨_, entries⟩ => .table (entriesToToml entries)

def entriesToToml : List (String × Item) → List (String × Toml)
  | [] => []
  | e :: es => entryToToml e :: entriesToToml es

def entryToToml : String × Item → String × Toml
  | (key, item) => (key, itemToToml item)

def itemToToml : Item → Toml
  | .value t => t
  | .table d => toToml d
  | .tables ds => .tables (draftsToToml ds).reverse

def draftsToToml : List Draft → List Toml
  | [] => []
  | d :: ds => toToml d :: draftsToToml ds

end

end Draft

/-- A line of a document that says something. -/
inductive Statement where
  | header (path : List String) (key : String)
  | arrayHeader (path : List String) (key : String)
  | entry (path : List String) (key : String) (value : Toml)

/-- A document that is read up to some line. The table of the last header stands apart until the
next one. -/
structure Document where
  root : Draft
  current : Draft
  /-- The path and key of the last header, and whether it is that of an array of tables. -/
  header? : Option (List String × String × Bool)

namespace Document

def empty : Document := ⟨.empty .written, .empty .written, none⟩

/-- Puts the current table in its place. -/
def settle (doc : Document) : Option Draft :=
  match doc.header? with
  | none => some doc.current
  | some (path, key, true) =>
    doc.root.update .implied (fun parent =>
      match parent.find? key with
      | some (.tables ds) => some (parent.set key (.tables (doc.current :: ds)))
      | _ => none) path
  | some (path, key, false) =>
    doc.root.update .implied (fun parent =>
      if (parent.find? key).isSome then none
      else some (parent.set key (.table doc.current))) path

/-- The entries that a table already has before its header, if the header may come. -/
def opened? (root : Draft) (path : List String) (key : String) : Option Draft :=
  match path with
  | [] =>
    match root.find? key with
    | none => some (.empty .written)
    | some (.table d) => if d.origin = .implied then some { d with origin := .written } else none
    | some _ => none
  | k :: ks =>
    match root.find? k with
    | none => some (.empty .written)
    | some (.value _) => none
    | some (.table d) => opened? d ks key
    | some (.tables []) => none
    | some (.tables (last :: _)) => opened? last ks key

/-- Takes one statement in. -/
def step (doc : Document) : Statement → Option Document
  | .entry path key value =>
    (doc.current.insert path key value).map fun current => { doc with current }
  | .header path key => do
    let root ← doc.settle
    let current ← opened? root path key
    let root ← root.update .implied (fun parent => some (parent.remove key)) path
    return ⟨root, current, some (path, key, false)⟩
  | .arrayHeader path key => do
    let root ← doc.settle
    let root ← root.update .implied (fun parent =>
      match parent.find? key with
      | none => some (parent.set key (.tables []))
      | some (.tables _) => some parent
      | some _ => none) path
    return ⟨root, .empty .written, some (path, key, true)⟩

/-- The table that statements describe. -/
def ofStatements? (ss : List Statement) : Option Toml := do
  let doc ← ss.foldlM step empty
  let root ← doc.settle
  return root.toToml

end Document

end SlotTemplate.Toml
