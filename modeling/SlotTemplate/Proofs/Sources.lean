import SlotTemplate.Proofs.Paths
import SlotTemplate.Proofs.Rendering.Caching

/-!
# Where templates are found

An engine searches its sources in order: the memory, the directories that it is configured with, and
the sources that were added later. A directory has no template whose name would lead out of it.

* `Engine.SearchEnds`: how a search through sources ends;
* `Engine.memory_answers`, `Engine.sources_answers`: what an engine in use searches;
* `TemplateSource.ReadsBelow`, `TemplateSource.directory_reads`: what a directory reads;
* `Engine.templateSource_searches`: an engine in use finds the text of a template in the first
  source that has it, and directories read below themselves alone.
-/

namespace SlotTemplate

/-! ## Directories -/

namespace TemplateSource

/-- A directory reads a text by a name. The name consists of segments with slashes in between, none
of which is two dots. In the path of the file that is read, it stands behind the directory. And that
file lies below the directory. -/
structure ReadsBelow (files : Files) (root name text : String) (segments : List String) :
    Prop where
  whole : name = String.intercalate "/" segments
  simple : ∀ s ∈ segments, '/' ∉ s.toList
  down : ".." ∉ segments
  relative : ∀ rest, name ≠ "/" ++ rest
  path : ∃ gap, (gap = "/" ∨ gap = "" ∧ (root = "" ∨ ∃ r, root = r ++ "/")) ∧
    files.text? (root ++ gap ++ name) = some text
  below : ∃ directory contents, files.directory? root = some directory ∧
    directory.descend? (segments.filter fun s => s ≠ "" ∧ s ≠ ".") = some (.file contents) ∧
    String.fromUTF8? contents = some text

/-- A name that is absolute or has a segment of two dots. -/
def Escapes (name : String) : Prop :=
  (∃ rest, name = "/" ++ rest) ∨
    ∃ segments, name = String.intercalate "/" segments ∧ ".." ∈ segments

variable {files : Files} {root name text : String}

theorem directory_reads (read : (directory root).text? files name = some text) :
    ReadsBelow files root name text (Path.segments name) := by
  obtain ⟨inside, read⟩ := Option.ite_none_right_eq_some.1 read
  obtain ⟨relative, down⟩ := Path.staysInside_iff.1 inside
  have absolute : ∀ rest, name ≠ "/" ++ rest := by
    intro rest e
    rw [Path.isAbsolute_iff.2 ⟨rest, e⟩] at relative
    cases relative
  refine ⟨(Path.intercalate_segments name).symm, fun _ => Path.not_mem_of_mem_segments, down,
    absolute, ?_, ?_⟩
  · rcases Path.join_eq root relative with ⟨rfl, same⟩ | ⟨-, r, rfl, same⟩ | ⟨-, same⟩
    · refine ⟨"", .inr ⟨rfl, .inl rfl⟩, ?_⟩
      rw [same] at read
      rwa [String.empty_append, String.empty_append]
    · refine ⟨"", .inr ⟨rfl, .inr ⟨r, rfl⟩⟩, ?_⟩
      rw [same] at read
      rwa [String.append_empty]
    · refine ⟨"/", .inl rfl, ?_⟩
      rwa [same] at read
  · unfold Files.text? at read
    split at read
    · rename_i contents found
      obtain ⟨mid, here, below⟩ := Files.find?_join inside found
      exact ⟨mid, contents, here, below, read⟩
    · cases read

/-- By a name that escapes no text is found, whatever files there are. -/
theorem directory_escapes (escapes : Escapes name) : (directory root).text? files name = none := by
  refine if_neg fun inside => ?_
  obtain ⟨relative, down⟩ := Path.staysInside_iff.1 inside
  rcases escapes with absolute | ⟨segments, rfl, up⟩
  · rw [Path.isAbsolute_iff.2 absolute] at relative
    cases relative
  · exact down (Path.mem_segments_intercalate (by decide) up)

end TemplateSource

/-! ## Searches -/

namespace Call

/-- The template that a call puts into memory. -/
def template? : Call → Option (String × String)
  | .addTemplate name source => some (name, source)
  | _ => none

/-- The source that a call adds. -/
def source? : Call → Option TemplateSource
  | .addSource source => some source
  | _ => none

end Call

/-- The memory as a source. -/
def TemplateSource.memory (templates : Dict String) : TemplateSource where
  text? _ name := templates.get? name
  location name := "<memory>/" ++ name

namespace Engine

/-- How a search through sources ends: with the text of the first one that has the name, or with the
locations of all of them. -/
inductive SearchEnds (files : Files) (name : String) :
    List TemplateSource → Except NotFound String → Prop where
  | found {before after : List TemplateSource} {source : TemplateSource} {text : String}
      (has : source.text? files name = some text)
      (first : ∀ s ∈ before, s.text? files name = none) :
      SearchEnds files name (before ++ source :: after) (.ok text)
  | missing {sources : List TemplateSource} (none : ∀ s ∈ sources, s.text? files name = none) :
      SearchEnds files name sources (.error ⟨name, sources.map (·.location name)⟩)

theorem searchEnds_templateSource (e : Engine) (files : Files) (name : String) :
    SearchEnds files name (.memory e.memory :: e.sources) (e.templateSource files name) := by
  unfold templateSource
  split
  · rename_i text found
    have here : (TemplateSource.memory e.memory).text? files name = some text := found
    have first : ∀ s ∈ ([] : List TemplateSource), s.text? files name = none :=
      List.forall_mem_nil _
    exact .found here first
  · rename_i absent
    split
    · rename_i text found
      obtain ⟨before, source, after, split, has, first⟩ := List.findSome?_eq_some_iff.1 found
      have searched : TemplateSource.memory e.memory :: e.sources =
          (.memory e.memory :: before) ++ source :: after := congrArg (_ :: ·) split
      rw [searched]
      exact .found has (List.forall_mem_cons.2 ⟨absent, first⟩)
    · rename_i none
      exact .missing (List.forall_mem_cons.2 ⟨absent, List.findSome?_eq_none_iff.1 none⟩)

/-- A call puts a template into memory or adds a source; nothing else changes what is searched. -/
theorem searched_answer (e : Engine) (files : Files) (call : Call) :
    (e.answer files call).2.memory = e.memory.insertAll call.template?.toList ∧
      (e.answer files call).2.sources = e.sources ++ call.source?.toList := by
  cases call with
  | addSource source => exact ⟨rfl, rfl⟩
  | renderSource source data =>
    have none : (Call.renderSource source data).source?.toList = [] := rfl
    rw [none, List.append_nil, answer, renderSource]
    split <;> exact ⟨rfl, rfl⟩
  | render name data =>
    have none : (Call.render name data).source?.toList = [] := rfl
    rw [none, List.append_nil, answer, render]
    split <;> exact ⟨rfl, rfl⟩
  | _ => exact ⟨rfl, (List.append_nil _).symm⟩

/-- By induction on the calls. -/
theorem searched_answers (e : Engine) (files : Files) (calls : List Call) :
    (answers files e calls).2.memory = e.memory.insertAll (calls.filterMap Call.template?) ∧
      (answers files e calls).2.sources = e.sources ++ calls.filterMap Call.source? := by
  induction calls generalizing e with
  | nil => exact ⟨rfl, (List.append_nil _).symm⟩
  | cons call calls ih =>
    obtain ⟨memory, sources⟩ := searched_answer e files call
    obtain ⟨memory', sources'⟩ := ih (e.answer files call).2
    have cons {α : Type} (f : Call → Option α) :
        (call :: calls).filterMap f = (f call).toList ++ calls.filterMap f := by
      cases value : f call with
      | none => exact List.filterMap_cons_none value
      | some a => exact List.filterMap_cons_some value
    rw [answers_cons, cons, cons, memory', sources', memory, sources, List.append_assoc]
    exact ⟨List.foldl_append.symm, rfl⟩

/-- An engine in use finds the text of a template in the first source that has the name: in memory,
in the directories that it is configured with, or in what was added later, in this order. Otherwise
it names all places where it looked. A directory reads a file below itself, whose path ends with the
name, and by a name that is absolute or has a segment of two dots it reads nothing. -/
theorem templateSource_searches (config : EngineConfig) (builtins : Library)
    (libraries : Dict Library) (files : Files) (calls : List Call) (now : Files) (name : String) :
    let last := (answers files { ofConfig config with builtins, libraries } calls).2
    SearchEnds now name
      (.memory (.ofList (calls.filterMap Call.template?)) ::
        (config.templateDirs.map .directory ++ calls.filterMap Call.source?))
      (last.templateSource now name) ∧
    (∀ root text, (TemplateSource.directory root).text? now name = some text →
      ∃ segments, TemplateSource.ReadsBelow now root name text segments) ∧
    (TemplateSource.Escapes name →
      ∀ root files, (TemplateSource.directory root).text? files name = none) := by
  intro last
  obtain ⟨memory, sources⟩ :=
    searched_answers { ofConfig config with builtins, libraries } files calls
  have ends := searchEnds_templateSource last now name
  rw [memory, sources] at ends
  exact ⟨ends, fun root text read => ⟨_, TemplateSource.directory_reads read⟩,
    fun escapes root files => TemplateSource.directory_escapes escapes⟩

theorem templateSource_searches_directory :
    let files := (Files.inDirectory []).write "srv/t/a.html" "A".toUTF8
    let config := { EngineConfig.default with templateDirs := ["srv/t"] }
    let calls := [Call.addTemplate "b.html" "B", .addSource (.directory "srv")]
    let last := (answers files (ofConfig config) calls).2
    last.templateSource files "a.html" = .ok "A" ∧
      SearchEnds files "a.html"
        [.memory (.ofList [("b.html", "B")]), .directory "srv/t", .directory "srv"]
        (last.templateSource files "a.html") ∧
      (TemplateSource.directory "srv/t").text? files "a.html" = some "A" ∧
      (∃ segments, TemplateSource.ReadsBelow files "srv/t" "a.html" "A" segments) ∧
      TemplateSource.Escapes "x/../t/a.html" ∧
      (TemplateSource.directory "srv").text? files "x/../t/a.html" = none := by
  intro files config calls last
  have read : (TemplateSource.directory "srv/t").text? files "a.html" = some "A" := by
    decide +kernel
  have result : last.templateSource files "a.html" = .ok "A" :=
    templateSource_eq_ok_iff.2 (by decide +kernel)
  have escapes : TemplateSource.Escapes "x/../t/a.html" :=
    .inr ⟨["x", "..", "t", "a.html"], by decide, by decide⟩
  obtain ⟨search, reads, -⟩ :=
    templateSource_searches config .builtin Dict.empty files calls files "a.html"
  obtain ⟨-, -, outside⟩ :=
    templateSource_searches config .builtin Dict.empty files calls files "x/../t/a.html"
  exact ⟨result, search, read, reads _ _ read, escapes, outside escapes _ _⟩

end Engine

end SlotTemplate
