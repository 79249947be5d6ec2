import SlotTemplate.Proofs.Markup.Places
import SlotTemplate.Proofs.Relocation

/-!
# Sources one behind another

* `place_shift`: pieces have the same lexemes wherever they stand, and the places move with them;
* `tokenize_append`: a source that does not end with a text and what follows it are read apart.
-/

namespace SlotTemplate.Markup

variable {n k : Nat}

theorem lexeme?_shift (p : Piece) (pos line : Nat) :
    p.lexeme? (pos + n) (line + k) = (p.lexeme? pos line).map (Lexeme.relocate (.shift n k)) := by
  have contents (m : Nat) : pos + n + 2 + m = pos + 2 + m + n := by omega
  have stop (m : Nat) : pos + n + 4 + m = pos + 4 + m + n := by omega
  cases p with
  | text cs =>
    rw [Piece.lexeme?, Piece.lexeme?, Nat.add_right_comm]
    rfl
  | markup d body =>
    simp only [Piece.lexeme?, delimited, contents, stop]
    cases d <;> rfl

theorem place_shift (pos line : Nat) (ps : List Piece) :
    place (pos + n) (line + k) ps = (place pos line ps).map (Lexeme.relocate (.shift n k)) := by
  induction ps generalizing pos line with
  | nil => rfl
  | cons p ps ih =>
    rw [place, place, lexeme?_shift, Nat.add_right_comm pos, Nat.add_right_comm line, ih]
    cases p.lexeme? pos line <;> rfl

theorem endsClosed_scan {source : String} (h : ∀ l ∈ (tokenize source).getLast?, ¬ l.IsText) :
    EndsClosed (scan source.toList) := by
  intro p hp isText
  obtain ⟨ps, pieces⟩ := List.getLast?_eq_some_iff.1 hp
  cases p with
  | markup => exact isText
  | text cs =>
    rw [tokenize, pieces, place_append] at h
    exact h _ List.getLast?_concat ⟨_, rfl⟩

/-- A source that does not end with a text is read apart from what follows it. -/
theorem tokenize_append {a : String} (b : String) (h : ∀ l ∈ (tokenize a).getLast?, ¬ l.IsText) :
    tokenize (a ++ b) = tokenize a ++ (tokenize b).map
      (Lexeme.relocate (.shift (Text.byteSize a.toList) (Text.newlines a.toList))) := by
  rw [tokenize, String.toList_append, scan_append _ (endsClosed_scan h), place_append, scan_source,
    place_shift]
  rfl

end SlotTemplate.Markup
