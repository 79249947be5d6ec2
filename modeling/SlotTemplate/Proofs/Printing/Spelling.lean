import SlotTemplate.Proofs.Printing.Lexing
import SlotTemplate.Proofs.Printing.Markup

/-!
# Printed tags and variables as text

* `Expr.compact`: no closing brace of a printed expression is bare, and no blank is at its ends;
* `Tag.Writable.sealed`, `Tag.Writable.place`: a tag that is printed ends where it is printed to
  end, and it spells its name and arguments.
-/

namespace SlotTemplate

open Argument Markup Text

/-! ## Characters -/

/-- Whether a character is neither a blank nor a closing brace. -/
def isSolid (c : Char) : Bool := !isBlank c && c != '}'

/-- The characters of names are solid. -/
theorem isSolid_of_isIdentPart {c : Char} (h : isIdentPart c = true) : isSolid c = true := by
  have ascii : c.toNat < 128 := by
    simp only [isIdentPart, Char.isAlphanum, Bool.or_eq_true, isAlpha_iff, isDigit_iff,
      beq_iff_eq] at h
    rcases h with (letter | digit) | rfl
    · omega
    · omega
    · decide
  have table : ∀ n < 128, isIdentPart (Char.ofNat n) = true → isSolid (Char.ofNat n) = true := by
    decide +kernel
  have entry := table c.toNat ascii
  rw [Char.ofNat_toNat] at entry
  exact entry h

theorem isIdentPart_of_isIdentStart {c : Char} (h : isIdentStart c = true) :
    isIdentPart c = true := by
  rcases Bool.or_eq_true_iff.1 h with alpha | other
  · simp [isIdentPart, Char.isAlphanum, alpha]
  · simp [isIdentPart, other]

theorem isIdentPart_of_isDigit {c : Char} (h : c.isDigit = true) : isIdentPart c = true := by
  simp [isIdentPart, Char.isAlphanum, h]

/-- A text without blanks and closing braces. -/
def Solid (cs : List Char) : Prop := ∀ c ∈ cs, isSolid c = true

namespace Solid

theorem append {a b : List Char} (ha : Solid a) (hb : Solid b) : Solid (a ++ b) :=
  List.forall_mem_append.2 ⟨ha, hb⟩

theorem cons {c : Char} {cs : List Char} (hc : isSolid c = true) (h : Solid cs) : Solid (c :: cs) :=
  List.forall_mem_cons.2 ⟨hc, h⟩

theorem singleton {c : Char} (hc : isSolid c = true) : Solid [c] :=
  cons hc (List.forall_mem_nil _)

theorem ink {cs : List Char} (h : Solid cs) : ∀ c ∈ cs, isBlank c = false := fun c hc => by
  have solid := h c hc
  simp only [isSolid, Bool.and_eq_true, Bool.not_eq_true'] at solid
  exact solid.1

theorem shielded {cs : List Char} (h : Solid cs) : Shielded cs :=
  .of_not_mem fun hm => absurd (h _ hm) (by decide)

theorem identifier {name : String} (h : isIdentifier name = true) :
    Solid name.toList ∧ name.toList ≠ [] := by
  obtain ⟨c, cs, spelled, start, parts⟩ := exists_of_isIdentifier h
  rw [spelled]
  refine ⟨cons ?_ fun d hd => isSolid_of_isIdentPart (parts d hd), List.cons_ne_nil c cs⟩
  exact isSolid_of_isIdentPart (isIdentPart_of_isIdentStart start)

theorem numeral (n : Int64) : Solid (Int64.numeral n) ∧ Int64.numeral n ≠ [] := by
  have digits {ds : List Char} (h : ∀ c ∈ ds, c.isDigit = true) : Solid ds := fun c hc =>
    isSolid_of_isIdentPart (isIdentPart_of_isDigit (h c hc))
  obtain ⟨ds, hne, h, ⟨-, e⟩ | ⟨-, e⟩⟩ := Int64.numeral_form n
  · rw [e]
    exact ⟨digits h, hne⟩
  · rw [e]
    exact ⟨cons (by decide) (digits h), List.cons_ne_nil _ _⟩

theorem spellKeys {ks : List String} (each : ∀ k ∈ ks, IsKey k) : Solid (spellKeys ks) := by
  intro c hc
  obtain ⟨k, hk, hc⟩ := List.mem_flatMap.1 hc
  rcases List.mem_cons.1 hc with rfl | hc
  · decide
  · rcases each k hk with name | ⟨n, -, rfl⟩
    · exact (identifier name).1 c hc
    · exact (numeral n).1 c hc

end Solid

/-! ## Expressions -/

/-- A text without bare closing braces and without blanks at its ends. -/
structure Compact (cs : List Char) : Prop where
  shielded : Shielded cs
  inked : Inked cs

namespace Compact

theorem of_solid {cs : List Char} (solid : Solid cs) (hne : cs ≠ []) : Compact cs := by
  refine ⟨solid.shielded, ?_, ?_⟩
  · cases cs with
    | nil => exact absurd rfl hne
    | cons c cs => exact ⟨c, cs, rfl, solid.ink c List.mem_cons_self⟩
  · exact ⟨cs.dropLast, cs.getLast hne, (List.dropLast_concat_getLast hne).symm,
      solid.ink _ (List.getLast_mem hne)⟩

theorem append {a b : List Char} (ha : Compact a) (hb : Compact b) : Compact (a ++ b) := by
  obtain ⟨c, u, rfl, hc⟩ := ha.inked.first
  obtain ⟨v, d, rfl, hd⟩ := hb.inked.last
  exact ⟨ha.shielded.append hb.shielded, ⟨c, _, rfl, hc⟩, _, d, (List.append_assoc ..).symm, hd⟩

end Compact

variable {q : Quoting}

theorem Quoting.shielded_char (q : Quoting) (c : Char) : Shielded (q.char c) := by
  by_cases brace : c = '}'
  · rw [brace, Quoting.char, if_pos q.brace_escaped]
    rintro (_ | ⟨d, _ | ⟨e, u⟩⟩) v h
    · cases h
    · cases h
      exact ⟨[], rfl⟩
    · simp at h
  · rw [Quoting.char]
    split
    · exact .of_not_mem (by simpa using Ne.symm brace)
    · exact .of_not_mem (by simpa using Ne.symm brace)

theorem Quoting.compact_literal (s : String) : Compact (q.literal s) := by
  have mark : isSolid q.mark = true := by
    rcases q.isMark with h | h <;> rw [h] <;> decide
  have alone : Solid [q.mark] := .singleton mark
  have text : Shielded (s.toList.flatMap q.char) := .flatMap fun c _ => q.shielded_char c
  refine ⟨(alone.shielded.append text).append alone.shielded, ?_, ?_⟩
  · exact ⟨q.mark, _, rfl, alone.ink _ List.mem_cons_self⟩
  · exact ⟨q.mark :: s.toList.flatMap q.char, q.mark, rfl, alone.ink _ List.mem_cons_self⟩

theorem Value.compact {v : Value} (printable : v.Printable) : Compact (v.spell q) := by
  have constant (s : String) (identifier : isIdentifier s = true) : Compact s.toList :=
    .of_solid (Solid.identifier identifier).1 (Solid.identifier identifier).2
  cases v with
  | null => exact constant "None" (by decide)
  | bool b => cases b <;> exact constant _ (by decide)
  | int n => exact .of_solid (Solid.numeral n).1 (Solid.numeral n).2
  | string s => exact q.compact_literal s
  | _ => cases printable

theorem Primary.compact {p : Primary} (printable : p.Printable) : Compact (p.spell q) := by
  cases p with
  | literal v => exact Value.compact printable
  | lookup name keys =>
    obtain ⟨identifier, -, -, each⟩ := printable
    obtain ⟨solid, hne⟩ := Solid.identifier identifier
    exact .of_solid (solid.append (.spellKeys each)) fun h => hne (List.append_eq_nil_iff.1 h).1

theorem Filter.compact {f : Filter} (printable : ∀ p, f.kind.argument? = some p → p.Printable) :
    Compact (f.spell q) := by
  have solid := (Solid.identifier f.kind.name_identifier).1
  have call : Compact ('|' :: f.kind.name.toList) :=
    .of_solid (.cons (by decide) solid) (List.cons_ne_nil _ _)
  rw [Filter.spell]
  cases argument : f.kind.argument? with
  | none => simpa using call
  | some p =>
    have colon : Compact [':'] := .of_solid (.singleton (by decide)) (List.cons_ne_nil _ _)
    exact call.append (colon.append (Primary.compact (printable p argument)))

/-- No closing brace of a printed expression is bare, and no blank is at its ends. -/
theorem Expr.compact {e : Expr} (printable : e.Printable) : Compact (e.spell q) := by
  have filters {fs : List Filter} (each : ∀ f ∈ fs, ∀ p, f.kind.argument? = some p → p.Printable)
      {cs : List Char} (h : Compact cs) : Compact (cs ++ fs.flatMap (Filter.spell q)) := by
    induction fs generalizing cs with
    | nil => simpa using h
    | cons f fs ih =>
      obtain ⟨first, others⟩ := List.forall_mem_cons.1 each
      rw [List.flatMap_cons, ← List.append_assoc]
      exact ih others (h.append (Filter.compact first))
  exact filters printable.filters (Primary.compact printable.primary)

/-! ## Tags -/

/-- What follows the name of a tag: nothing, or a text behind a blank. -/
inductive Attached : List Char → Prop where
  | nil : Attached []
  | blank {cs : List Char} (compact : Compact cs) : Attached (' ' :: cs)

theorem Compact.attach {a b : List Char} (ha : Compact a) (hb : Attached b) : Compact (a ++ b) := by
  cases hb with
  | nil => simpa using ha
  | blank compact =>
    obtain ⟨c, u, rfl, hc⟩ := ha.inked.first
    obtain ⟨v, d, rfl, hd⟩ := compact.inked.last
    refine ⟨ha.shielded.append (compact.shielded.cons (by decide)), ⟨c, _, rfl, hc⟩, ?_⟩
    exact ⟨c :: u ++ ' ' :: v, d, by simp, hd⟩

/-- Printed arguments stand behind a blank each. -/
theorem Argument.attached {as : List Argument}
    (printable : ∀ a ∈ as, isIdentifier a.name = true ∧ a.value.Printable) :
    Attached (as.flatMap (Argument.spell q)) := by
  induction as with
  | nil => exact .nil
  | cons a as ih =>
    obtain ⟨⟨identifier, value⟩, others⟩ := List.forall_mem_cons.1 printable
    have equals : Compact (a.name.toList ++ ['=']) :=
      .of_solid ((Solid.identifier identifier).1.append (.singleton (by decide))) (by simp)
    have whole := (equals.append (Expr.compact (q := q) value)).attach (ih others)
    simpa [Argument.spell] using Attached.blank whole

/-- A tag that can be written: a name without blanks, and what follows it. -/
structure Tag.Writable (name : String) (args : List Char) : Prop where
  solid : Solid name.toList
  nonempty : name.toList ≠ []
  attached : Attached args

namespace Tag.Writable

variable {name : String} {args : List Char}

theorem of_all (solid : name.toList.all isSolid = true) (nonempty : name.toList ≠ [])
    (attached : Attached args) : Writable name args :=
  ⟨List.all_eq_true.1 solid, nonempty, attached⟩

theorem compact (h : Writable name args) : Compact (name.toList ++ args) :=
  (Compact.of_solid h.solid h.nonempty).attach h.attached

/-- A printed tag ends where it is printed to end. -/
theorem sealed (h : Writable name args) : Sealed .block (' ' :: (name.toList ++ args ++ [' '])) :=
  sealed_of_shielded .block h.compact.shielded

/-- A printed tag is the next lexeme, and it spells its name and arguments. -/
theorem place (h : Writable name args) (pos line : Nat) (ps : List Piece) :
    ∃ lexeme t pos' line',
      place pos line (tagPiece name args :: ps) = lexeme :: place pos' line' ps ∧
      lexeme.token = .block t ∧ t.Spells name args := by
  refine ⟨_, _, _, _, rfl, rfl, ?_, h.nonempty, h.solid.ink, ?_⟩
  · simp only [trim_inked h.compact.inked, String.toList_ofList]
  · cases h.attached with
    | nil => rintro _ ⟨⟩
    | blank =>
      rintro _ ⟨⟩
      decide

end Tag.Writable

theorem place_variable {e : Expr} (printable : e.Printable) (pos line : Nat) (ps : List Piece) :
    ∃ lexeme offset pos' line',
      place pos line (.markup .variable (' ' :: (e.spell q ++ [' '])) :: ps) =
        lexeme :: place pos' line' ps ∧
      lexeme.token = .variable (String.ofList (e.spell q)) offset := by
  have contents := trim_inked (Expr.compact (q := q) printable).inked
  exact ⟨_, _, _, _, rfl, congrArg (fun cs => Token.variable (String.ofList cs) _) contents⟩

end SlotTemplate
