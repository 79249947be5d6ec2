import SlotTemplate.Proofs.Argument.Continuation
import SlotTemplate.Proofs.Argument.Places
import SlotTemplate.Proofs.Argument.Tiling

/-!
# Where errors of a tag start

What is blamed in a tag or a variable starts with a character that cannot be read, with a token or
behind the last one. So no character is cut where an error starts.

* `points_of_reader`: an error of a reader of forms, or of a check of what it reads;
* `Tag.invocationArguments_points`, `Tag.condition_points`, `Tag.loopHeader_points`,
  `Expr.ofVariable_points`: an error of a tag or a variable starts between two characters of what is
  read, or at one of its ends.
-/

namespace SlotTemplate

open Argument

namespace Grammar

/-- An error starts between two characters of the text of a site, or at one of its ends. -/
def Site.Points (site : Site) (text : String) (e : TagError) : Prop :=
  ∃ before behind, text.toList = before ++ behind ∧
    e.span.start = site.start + Text.byteSize before

variable {site : Site} {text : String} {ts : List Placed} {e : TagError}

namespace Site.Points

/-- An error that starts inside the text of a site starts inside the source that it stands in. -/
theorem isBoundary {source : List Char} (h : site.Points text e)
    (stands : Text.StandsAt source text.toList site.start) :
    Text.isBoundary e.span.start source = true := by
  obtain ⟨before, behind, split, start⟩ := h
  obtain ⟨front, back, rfl, offset⟩ := stands
  rw [split, start, offset, ← Text.byteSize_append, List.append_assoc, ← List.append_assoc]
  exact Text.isBoundary_append _ _

theorem le (h : site.Points text e) :
    e.span.start ≤ site.start + Text.byteSize text.toList := by
  obtain ⟨before, behind, split, start⟩ := h
  rw [start, split, Text.byteSize_append]
  omega

/-- Every token starts between two characters of the text. -/
theorem of_mem (lexed : lex text site.start = .ok ts) {t : Placed} (mem : t ∈ ts)
    (start : e.span.start = t.2.start) : site.Points text e := by
  obtain ⟨front, w, back, split, -, place⟩ := (lexFrom_eq_ok_iff.1 lexed).spelt t mem
  refine ⟨front, w ++ back, split, ?_⟩
  rw [start, place]

end Site.Points

/-- Where a reader gets stuck, a token starts or the text ends. -/
theorem points_of_readAll {Raw : Type} {several : Bool} {p : Position}
    {reader : List Placed → Except Stuck Raw} (holds : site.Holds text)
    (halting : Halting several p reader) (h : readAll site text reader = .error e) :
    site.Points text e := by
  unfold readAll at h
  split at h
  · rename_i span failed
    cases h
    obtain ⟨before, behind, -, split, -, start, -⟩ := lexFrom_before_error failed
    exact ⟨before, behind, split, start⟩
  · rename_i ts lexed
    obtain ⟨s, stuck, rfl⟩ := mapError_eq_error_iff.1 h
    obtain ⟨us, -, split, -⟩ := halting ts s stuck
    cases rest : s.rest with
    | nil =>
      refine ⟨text.toList, [], (List.append_nil _).symm, ?_⟩
      rw [Stuck.error, rest, site.behind_eq holds lexed]
      exact holds.stop
    | cons t after =>
      have mem : t ∈ ts := by
        rw [split, rest]
        exact List.mem_append_right us List.mem_cons_self
      apply Site.Points.of_mem lexed mem
      rw [Stuck.error, rest]
      rfl

/-- An error of a check starts with one of the tokens of what it checks. -/
def StartsIn (tokens : List Placed) (e : TagError) : Prop :=
  ∃ t ∈ tokens, e.span.start = t.2.start

theorem StartsIn.mono {us : List Placed} (h : StartsIn ts e) (sub : ts ⊆ us) : StartsIn us e := by
  obtain ⟨t, mem, start⟩ := h
  exact ⟨t, sub mem, start⟩

/-- An error of a reader of forms starts inside the text, if an error of what is checked in a form
starts with one of its tokens. -/
theorem points_of_reader {Form Raw Tree : Type} {tokens : Form → List Placed} {draft : Form → Raw}
    {several : Bool} {p : Position} {reader : List Placed → Except Stuck Raw}
    {check : Raw → Except TagError Tree} (holds : site.Holds text)
    (reads : ∀ ts raw, reader ts = .ok raw ↔ ∃ f, tokens f = ts ∧ draft f = raw)
    (halting : Halting several p reader)
    (checks : ∀ f e, check (draft f) = .error e → StartsIn (tokens f) e)
    (h : readAll site text reader >>= check = .error e) : site.Points text e := by
  obtain failed | ⟨raw, read, failed⟩ := bind_eq_error_iff.1 h
  · exact points_of_readAll holds halting failed
  · obtain ⟨ts, lexed, read⟩ := readAll_eq_ok_iff.1 read
    obtain ⟨f, rfl, rfl⟩ := (reads ts raw).1 read
    obtain ⟨t, mem, start⟩ := checks f e failed
    exact .of_mem lexed mem start

/-! ## What is checked in forms -/

theorem checkCalls_eq_error {calls : List FilterCall} (h : checkCalls site calls = .error e) :
    ∃ call ∈ calls, e.span = call.span := by
  induction calls with
  | nil => cases h
  | cons call calls ih =>
    rw [checkCalls] at h
    split at h
    · cases h
      exact ⟨call, List.mem_cons_self, rfl⟩
    · obtain ⟨blamed, mem, span⟩ := ih (map_eq_error_iff.1 h)
      exact ⟨blamed, List.mem_cons_of_mem _ mem, span⟩

/-- A filter is blamed from its bar on. -/
theorem ExprForm.check_startsIn {f : ExprForm} (h : f.draft.check site = .error e) :
    StartsIn f.tokens e := by
  obtain ⟨call, mem, span⟩ := checkCalls_eq_error (map_eq_error_iff.1 h)
  obtain ⟨c, inside, rfl⟩ := List.mem_map.1 mem
  refine ⟨(.pipe, c.bar), ?_, ?_⟩
  · apply List.mem_append_right
    exact List.mem_flatMap.2 ⟨c, inside, List.mem_cons_self⟩
  · rw [span]
    rfl

end Grammar

open Grammar

namespace Tag

variable {tag : Tag} {e : TagError}

theorem checkArguments_startsIn {site : Site} {fs : List ArgumentForm}
    (h : checkArguments site (fs.map ArgumentForm.draft) = .error e) :
    StartsIn (fs.flatMap ArgumentForm.tokens) e := by
  induction fs with
  | nil => cases h
  | cons f fs ih =>
    rw [List.flatMap_cons]
    obtain failed | ⟨value, -, h⟩ := bind_eq_error_iff.1 h
    · refine (ExprForm.check_startsIn failed).mono fun t mem => ?_
      apply List.mem_append_left
      exact List.mem_cons_of_mem _ (List.mem_cons_of_mem _ mem)
    · obtain failed | ⟨more, -, h⟩ := bind_eq_error_iff.1 h
      · exact (ih failed).mono (List.subset_append_right _ _)
      · cases h

theorem checkDistinct_eq_error {seen : List String} {as : List KeywordArgument}
    (h : Parser.checkDistinct tag seen as = .error e) : ∃ a ∈ as, e.span = a.nameSpan := by
  induction as generalizing seen with
  | nil => cases h
  | cons a as ih =>
    rw [Parser.checkDistinct] at h
    split at h
    · cases h
      exact ⟨a, List.mem_cons_self, rfl⟩
    · obtain ⟨blamed, mem, span⟩ := ih (map_eq_error_iff.1 h)
      exact ⟨blamed, List.mem_cons_of_mem _ mem, span⟩

variable (ink : ∀ c ∈ tag.args.toList.getLast?, Text.isBlank c = false)

include ink

theorem condition_points (h : tag.condition = .error e) : (tagSite tag).Points tag.args e := by
  refine points_of_reader ⟨rfl, ink⟩ (fun _ _ => condition_iff) condition_halts ?_ h
  intro f e failed
  obtain failed | ⟨value, -, failed⟩ := bind_eq_error_iff.1 failed
  · exact (ExprForm.check_startsIn failed).mono (List.subset_append_right _ _)
  · cases failed

theorem loopHeader_points (h : tag.loopHeader = .error e) : (tagSite tag).Points tag.args e := by
  refine points_of_reader ⟨rfl, ink⟩ (fun _ _ => loopHeader_iff) loopHeader_halts ?_ h
  intro f e failed
  obtain failed | ⟨value, -, failed⟩ := bind_eq_error_iff.1 failed
  · refine (ExprForm.check_startsIn failed).mono fun t mem => ?_
    exact List.mem_cons_of_mem _ (List.mem_cons_of_mem _ mem)
  · cases failed

/-- A repeated argument is blamed from its name on. -/
theorem invocationArguments_points (h : tag.invocationArguments = .error e) :
    (tagSite tag).Points tag.args e := by
  obtain failed | ⟨ks, read, repeated⟩ := bind_eq_error_iff.1 h
  · exact points_of_reader ⟨rfl, ink⟩ (fun _ _ => arguments_iff) (arguments_halts [])
      (fun _ _ => checkArguments_startsIn) failed
  · obtain ⟨ds, read, checked⟩ := bind_eq_ok_iff.1 read
    obtain ⟨ts, lexed, read⟩ := readAll_eq_ok_iff.1 read
    obtain ⟨fs, rfl, rfl⟩ := arguments_iff.1 read
    obtain ⟨k, mem, span⟩ := checkDistinct_eq_error repeated
    obtain ⟨before, f, behind, rfl, -, place, -⟩ := checkArguments_mem checked k mem
    have inside : (.ident f.name, f.span) ∈
        (before ++ f :: behind).flatMap ArgumentForm.tokens := by
      rw [List.flatMap_append, List.flatMap_cons]
      exact List.mem_append_right _ List.mem_cons_self
    apply Site.Points.of_mem lexed inside
    rw [span, place]

end Tag

theorem Expr.ofVariable_points {contents : String} {e : TagError}
    (ink : ∀ c ∈ contents.toList.getLast?, Text.isBlank c = false) {offset line : Nat}
    (h : Expr.ofVariable contents offset line = .error e) :
    (variableSite contents offset line).Points contents e :=
  points_of_reader ⟨rfl, ink⟩ (fun _ _ => alone_iff) alone_halts
    (fun _ _ => ExprForm.check_startsIn) h

end SlotTemplate
