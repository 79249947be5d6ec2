import SlotTemplate.Parser
import SlotTemplate.Proofs.Argument.Order

/-!
# Where errors of a tag point

* `lexFrom_error_within`: what cannot be read lies in the text;
* `lexFrom_ends`: the last token of a text ends with it, unless the text ends with a gap;
* `readAll_judged`: an error of a fragment points into the fragment;
* `Tag.invocationArguments_judged`, `Tag.condition_judged`, …: so do those of a tag.
-/

namespace SlotTemplate

namespace Text

theorem byteSize_le_of_isPrefix {a b : List Char} (h : a <+: b) : byteSize a ≤ byteSize b := by
  obtain ⟨c, rfl⟩ := h
  rw [byteSize_append]
  exact Nat.le_add_right _ _

end Text

namespace Argument

theorem quoted_error_isPrefix {q : Char} {cs read : List Char} (h : quoted q cs = .error read) :
    read <+: cs := by
  fun_induction quoted q cs generalizing read with
  | case1 | case3 | case4 =>
    cases h
    exact List.nil_prefix
  | case2 => cases h
  | case5 | case7 => cases h
  | case6 _ _ _ _ failed _ ih | case8 _ _ _ _ _ failed ih =>
    cases h
    simpa using ih failed

theorem integer_fail {whole rest read : List Char} (h : integer whole rest = .fail read) :
    read = whole := by
  unfold integer at h
  split at h <;> cases h
  rfl

theorem pointed_fail {afterDot : Bool} {whole fraction rest read : List Char}
    (h : pointed afterDot whole fraction rest = .fail read) : read = whole ++ '.' :: fraction := by
  unfold pointed at h
  split at h <;> split at h <;> cases h <;> rfl

theorem number_fail_isPrefix {afterDot : Bool} {whole rest read : List Char}
    (h : number afterDot whole rest = .fail read) : read <+: whole ++ rest := by
  unfold number at h
  split at h
  · rename_i after
    split at h
    · rw [integer_fail h]
      exact List.prefix_append _ _
    · rw [pointed_fail h, List.prefix_append_right_inj, List.prefix_cons_inj]
      exact List.takeWhile_prefix _
  · rw [integer_fail h]
    exact List.prefix_append _ _

/-- What cannot be read is the start of the text. -/
theorem step_fail_isPrefix {afterDot : Bool} {c : Char} {rest read : List Char}
    (h : step afterDot c rest = .fail read) : read <+: c :: rest := by
  cases lead c with
  | gap _ reads | sign _ _ _ reads | name reads =>
    rw [reads] at h
    cases h
  | quote reads fails =>
    cases body : quoted c rest with
    | ok split =>
      rw [reads _ body] at h
      cases h
    | error part =>
      rw [fails _ body] at h
      cases h
      simpa using quoted_error_isPrefix body
  | number reads fails =>
    cases digits : signedDigits? (c :: rest) with
    | some split =>
      rw [reads _ digits] at h
      rw [(signedDigits?_eq_some digits).1]
      exact number_fail_isPrefix h
    | none =>
      rw [fails _ digits] at h
      cases h
      simp

/-- What cannot be read lies in the text. -/
theorem lexFrom_error_within {pos : Nat} {afterDot : Bool} {cs : List Char} {span : Span}
    (h : lexFrom pos afterDot cs = .error span) : span.Within pos (pos + Text.byteSize cs) := by
  fun_induction lexFrom pos afterDot cs with
  | case1 => cases h
  | case2 pos _ c cs _ _ _ ih =>
    rw [Text.byteSize_cons, ← Nat.add_assoc]
    exact (ih h).mono (Nat.le_add_right _ _)
  | case3 => cases h
  | case4 pos _ c cs ts rest step _ failed ih =>
    cases h
    rw [(step_tokens step).1, Text.byteSize_append, ← Nat.add_assoc]
    exact (ih failed).mono (Nat.le_add_right _ _)
  | case5 pos _ c cs read step =>
    cases h
    exact ⟨Nat.le_refl _, Nat.le_add_right _ _,
      Nat.add_le_add_left (Text.byteSize_le_of_isPrefix (step_fail_isPrefix step)) pos⟩

theorem isGap_of_step {afterDot : Bool} {c c' : Char} {rest rest' : List Char}
    (h : step afterDot c rest = .gap c' rest') : isGap c = true := by
  cases lead c with
  | gap is _ => exact is
  | sign _ _ _ reads | name reads =>
    rw [reads] at h
    cases h
  | quote reads fails =>
    cases body : quoted c rest with
    | ok split =>
      rw [reads _ body] at h
      cases h
    | error part =>
      rw [fails _ body] at h
      cases h
  | number reads fails =>
    cases digits : signedDigits? (c :: rest) with
    | some split =>
      rw [reads _ digits] at h
      unfold number integer pointed at h
      repeat' split at h
      all_goals cases h
    | none =>
      rw [fails _ digits] at h
      cases h

theorem isBlank_of_isGap {c : Char} (h : isGap c = true) : Text.isBlank c = true := by
  simp only [isGap, Bool.or_eq_true, beq_iff_eq] at h
  rcases h with ((rfl | rfl) | rfl) | rfl <;> decide

theorem placeTokens_ends {ts : List (Token × List Char)} (nonempty : ts ≠ []) (pos : Nat) :
    ∃ t, (placeTokens pos ts).getLast? = some t ∧ t.2.stop = pos + Text.byteSize (spelled ts) := by
  induction ts generalizing pos with
  | nil => exact absurd rfl nonempty
  | cons t ts ih =>
    cases ts with
    | nil => exact ⟨_, rfl, by simp [placeTokens, spelled]⟩
    | cons t' ts =>
      obtain ⟨last, found, stop⟩ := ih (List.cons_ne_nil _ _) (pos + Text.byteSize t.2)
      refine ⟨last, ?_, ?_⟩
      · rw [placeTokens, List.getLast?_cons, found]
        rfl
      · rw [stop, Nat.add_assoc, ← Text.byteSize_append]
        rfl

/-- The last token of a text ends with the text, unless the text ends with a gap. -/
theorem lexFrom_ends {pos : Nat} {afterDot : Bool} {cs : List Char} {ts : List Placed}
    (h : lexFrom pos afterDot cs = .ok ts) (nonempty : cs ≠ [])
    (ink : ∀ c ∈ cs.getLast?, isGap c = false) :
    ∃ t, ts.getLast? = some t ∧ t.2.stop = pos + Text.byteSize cs := by
  fun_induction lexFrom pos afterDot cs generalizing ts with
  | case1 => exact absurd rfl nonempty
  | case2 pos _ c cs _ _ step ih =>
    cases cs with
    | nil => exact absurd (isGap_of_step step) (by simpa using ink)
    | cons d cs =>
      rw [List.getLast?_cons_cons] at ink
      obtain ⟨t, last, stop⟩ := ih h (List.cons_ne_nil _ _) ink
      exact ⟨t, last, stop.trans (Nat.add_assoc _ _ _)⟩
  | case3 pos _ c cs ts rest step more hm ih =>
    cases h
    obtain ⟨text, spelledTokens⟩ := step_tokens step
    have tokens : ts ≠ [] := by
      rintro rfl
      exact spelledTokens rfl
    rw [text, Text.byteSize_append, ← Nat.add_assoc]
    rw [text] at ink
    cases rest with
    | nil =>
      rw [lexFrom] at hm
      cases hm
      rw [List.append_nil]
      exact placeTokens_ends tokens _
    | cons d rest =>
      have ink' : ∀ c ∈ (d :: rest).getLast?, isGap c = false := fun c hc =>
        ink c (by rw [List.getLast?_append, hc]; rfl)
      obtain ⟨t, last, stop⟩ := ih hm (List.cons_ne_nil _ _) ink'
      exact ⟨t, by rw [List.getLast?_append, last]; rfl, stop⟩
  | case4 => cases h
  | case5 => cases h

end Argument

namespace Grammar

open Argument

/-- A fragment stands at a site, and no blank ends it. -/
structure Site.Holds (site : Site) (text : String) : Prop where
  stop : site.stop = site.start + Text.byteSize text.toList
  ink : ∀ c ∈ text.toList.getLast?, Text.isBlank c = false

/-- An error points into the fragment of a site and names its line. -/
structure Site.Blames (site : Site) (e : TagError) : Prop where
  span : e.span.Within site.start site.stop
  line : e.line = site.line

/-- A step over a fragment gives a result with a property, or an error that points into it. -/
def Site.Judges {α : Type} (site : Site) (P : α → Prop) : Except TagError α → Prop
  | .ok a => P a
  | .error e => site.Blames e

variable {site : Site} {α β : Type} {P : α → Prop} {Q : β → Prop}

namespace Site.Judges

theorem map {x : Except TagError α} {f : α → β} (h : site.Judges P x) (imp : ∀ a, P a → Q (f a)) :
    site.Judges Q (x.map f) := by
  cases x with
  | error e => exact h
  | ok a => exact imp a h

theorem bind {x : Except TagError α} {f : α → Except TagError β} (h : site.Judges P x)
    (step : ∀ a, P a → site.Judges Q (f a)) : site.Judges Q (x >>= f) := by
  cases x with
  | error e => exact h
  | ok a => exact step a h

end Site.Judges

/-- The place behind all tokens of a fragment is its end. -/
theorem Site.behind_eq {text : String} {tokens : List Placed} (holds : site.Holds text)
    (lexed : lex text site.start = .ok tokens) : site.behind tokens = ⟨site.stop, site.stop⟩ := by
  by_cases empty : text.toList = []
  · rw [lex, empty, lexFrom] at lexed
    cases lexed
    rfl
  · have ink : ∀ c ∈ text.toList.getLast?, isGap c = false := by
      intro c hc
      have inked := holds.ink c hc
      cases gap : isGap c with
      | false => rfl
      | true => exact absurd (isBlank_of_isGap gap) (by simp [inked])
    obtain ⟨t, last, stop⟩ := lexFrom_ends lexed empty ink
    rw [Site.behind, last, holds.stop]
    exact congrArg _ stop

theorem Stuck.blames {text : String} {tokens : List Placed} {s : Stuck} {n : Nat}
    (holds : site.Holds text) (lexed : lex text site.start = .ok tokens) (le : site.start ≤ n)
    (left : Between n site.stop s.rest) : site.Blames (s.error site tokens) := by
  unfold Stuck.error
  split
  · refine ⟨?_, rfl⟩
    rw [Site.error, site.behind_eq holds lexed, holds.stop]
    exact ⟨Nat.le_add_right _ _, Nat.le_refl _, Nat.le_refl _⟩
  · rename_i rest
    rw [rest] at left
    exact ⟨left.head.mono le, rfl⟩

theorem readAll_judged {text : String} {reader : List Placed → Except Stuck α}
    (holds : site.Holds text)
    (yields : ∀ ts, Between site.start site.stop ts → Yields site.start site.stop P (reader ts)) :
    site.Judges P (readAll site text reader) := by
  unfold readAll
  split
  · rename_i span failed
    have within := lexFrom_error_within failed
    rw [← holds.stop] at within
    exact ⟨within, rfl⟩
  · rename_i ts lexed
    have between := lexFrom_between lexed
    rw [← holds.stop] at between
    have read := yields ts between
    cases result : reader ts with
    | error s =>
      rw [result] at read
      obtain ⟨n, le, left⟩ := read
      exact s.blames holds lexed le left
    | ok a =>
      rw [result] at read
      exact read

theorem checkCalls_judged {calls : List FilterCall}
    (within : ∀ call ∈ calls, call.span.Within site.start site.stop) :
    site.Judges (fun _ => True) (checkCalls site calls) := by
  induction calls with
  | nil => trivial
  | cons call calls ih =>
    obtain ⟨here, there⟩ := List.forall_mem_cons.1 within
    rw [checkCalls]
    split
    · exact ⟨here, rfl⟩
    · exact (ih there).map fun _ _ => trivial

theorem Draft.check_judged {d : Draft} (stands : d.Stands site.start site.stop) :
    site.Judges (fun _ => True) (d.check site) :=
  (checkCalls_judged stands.calls).map fun _ _ => trivial

end Grammar

open Grammar

/-- The variable of a source points into itself where its expression is in disorder. -/
theorem Expr.ofVariable_judged {contents : String}
    (ink : ∀ c ∈ contents.toList.getLast?, Text.isBlank c = false) (offset line : Nat) :
    Site.Judges ⟨"\x7b\x7b " ++ contents ++ " \x7d\x7d", line, offset,
      offset + Text.byteSize contents.toList⟩ (fun _ => True)
      (Expr.ofVariable contents offset line) :=
  (readAll_judged ⟨rfl, ink⟩ fun _ => alone_yields).bind fun _ => Draft.check_judged

namespace Tag

variable {tag : Tag} (ink : ∀ c ∈ tag.args.toList.getLast?, Text.isBlank c = false)

include ink

theorem condition_judged : (tagSite tag).Judges (fun _ => True) tag.condition :=
  (readAll_judged ⟨rfl, ink⟩ fun _ => condition_yields).bind fun _ stands =>
    (Draft.check_judged stands).bind fun _ _ => trivial

theorem loopHeader_judged : (tagSite tag).Judges (fun _ => True) tag.loopHeader :=
  (readAll_judged ⟨rfl, ink⟩ fun _ => loopHeader_yields).bind fun _ stands =>
    (Draft.check_judged stands).bind fun _ _ => trivial

omit ink in
theorem checkArguments_judged {site : Site} {ds : List ((String × Span) × Draft)}
    (stand : ∀ d ∈ ds, d.1.2.Within site.start site.stop ∧ d.2.Stands site.start site.stop) :
    site.Judges (fun as => ∀ a ∈ as, a.nameSpan.Within site.start site.stop)
      (checkArguments site ds) := by
  induction ds with
  | nil => exact List.forall_mem_nil _
  | cons d ds ih =>
    obtain ⟨⟨named, stands⟩, there⟩ := List.forall_mem_cons.1 stand
    exact (Draft.check_judged stands).bind fun value _ => (ih there).bind fun more within =>
      List.forall_mem_cons.2 ⟨named, within⟩

omit ink in
theorem checkDistinct_judged {seen : List String} {as : List KeywordArgument}
    (within : ∀ a ∈ as, a.nameSpan.Within (tagSite tag).start (tagSite tag).stop) :
    (tagSite tag).Judges (fun _ => True) (Parser.checkDistinct tag seen as) := by
  induction as generalizing seen with
  | nil => trivial
  | cons a as ih =>
    obtain ⟨here, there⟩ := List.forall_mem_cons.1 within
    rw [Parser.checkDistinct]
    split
    · exact ⟨here, rfl⟩
    · exact (ih there).map fun _ _ => trivial

theorem invocationArguments_judged :
    (tagSite tag).Judges (fun _ => True) tag.invocationArguments := by
  have drafts : (tagSite tag).Judges _ (readAll (tagSite tag) tag.args (arguments [])) :=
    readAll_judged ⟨rfl, ink⟩ fun _ => arguments_yields
  exact (drafts.bind fun _ stand => checkArguments_judged stand.2).bind fun _ =>
    checkDistinct_judged

end Tag

end SlotTemplate
