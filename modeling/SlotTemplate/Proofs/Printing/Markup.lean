import SlotTemplate.Proofs.Markup.Scan
import SlotTemplate.Proofs.Markup.Words

/-!
# Pieces that are read back

* `Shielded`: a text with a backslash in front of each closing brace;
* `scan_legible`: pieces are read back if their texts are plain and their parts are sealed.
-/

namespace SlotTemplate

/-! ## Delimited parts -/

namespace Markup

/-- A text with a backslash in front of each closing brace. -/
def Shielded (cs : List Char) : Prop := ∀ u v, cs = u ++ '}' :: v → ∃ w, u = w ++ ['\\']

namespace Shielded

theorem of_not_mem {cs : List Char} (h : '}' ∉ cs) : Shielded cs := by
  rintro u v rfl
  exact absurd (List.mem_append_right u List.mem_cons_self) h

theorem append {a b : List Char} (ha : Shielded a) (hb : Shielded b) : Shielded (a ++ b) := by
  intro u v h
  rcases List.append_eq_append_iff.1 h with ⟨w, rfl, hw⟩ | ⟨w, rfl, hw⟩
  · obtain ⟨w', rfl⟩ := hb w v hw
    exact ⟨a ++ w', by simp⟩
  · cases w with
    | nil =>
      obtain ⟨w', e⟩ := hb [] v (by simpa using hw.symm)
      cases w' <;> cases e
    | cons c w =>
      obtain ⟨rfl, rfl⟩ := List.cons.inj hw
      exact ha u w rfl

theorem cons {c : Char} {cs : List Char} (hc : c ≠ '}') (h : Shielded cs) : Shielded (c :: cs) :=
  append (a := [c]) (of_not_mem (by simpa using hc.symm)) h

theorem flatMap {α : Type} {f : α → List Char} {as : List α} (h : ∀ a ∈ as, Shielded (f a)) :
    Shielded (as.flatMap f) := by
  induction as with
  | nil => exact of_not_mem List.not_mem_nil
  | cons a as ih =>
    obtain ⟨here, there⟩ := List.forall_mem_cons.1 h
    exact append here (ih there)

end Shielded

/-- A body that reaches up to the closing pair behind it, whatever follows. -/
def Sealed (d : Delimiter) (body : List Char) : Prop :=
  ∀ rest, splitClose d.guard (body ++ d.guard :: '}' :: rest) = some (body, rest)

theorem splitClose_append {g : Char} (body rest : List Char)
    (pair : ∀ u v, body ≠ u ++ g :: '}' :: v) (last : ∀ u, body ≠ u ++ [g]) :
    splitClose g (body ++ g :: '}' :: rest) = some (body, rest) := by
  match body with
  | [] => simp [splitClose]
  | [c] =>
    have hc : c ≠ g := fun e => last [] (by simp [e])
    simp [splitClose, hc]
  | c :: d :: body =>
    have pair' (u v) : d :: body ≠ u ++ g :: '}' :: v := fun e => pair (c :: u) v (by simp [e])
    have last' (u) : d :: body ≠ u ++ [g] := fun e => last (c :: u) (by simp [e])
    by_cases hc : c = g
    · have hd : d ≠ '}' := fun e => pair [] body (by simp [hc, e])
      have tail := splitClose_append (g := g) body rest
        (fun u v e => pair' (d :: u) v (by simp [e])) fun u e => last' (d :: u) (by simp [e])
      simp [splitClose, hc, hd, tail]
    · have tail := splitClose_append (d :: body) rest pair' last'
      simp only [List.cons_append] at tail ⊢
      simp [splitClose, hc, tail]

/-- No closing pair stands in a shielded text between blanks. -/
theorem sealed_of_shielded (d : Delimiter) {cs : List Char} (h : Shielded cs) :
    Sealed d (' ' :: (cs ++ [' '])) := by
  have guard : d.guard ≠ '\\' ∧ d.guard ≠ ' ' := by cases d <;> decide
  have shielded : Shielded (' ' :: (cs ++ [' '])) :=
    .cons (by decide) (h.append (.of_not_mem (by decide)))
  refine fun rest => splitClose_append _ rest (fun u v e => ?_) fun u e => ?_
  · obtain ⟨w, hw⟩ := shielded (u ++ [d.guard]) v (by simp [e])
    exact guard.1 (List.singleton_inj.1 (List.append_inj' hw rfl).2)
  · have h : (' ' :: cs) ++ [' '] = u ++ [d.guard] := e
    exact guard.2 (List.singleton_inj.1 (List.append_inj' h rfl).2).symm

/-! ## Pieces -/

/-- Pieces that do not start with a text. -/
def TextFree (ps : List Piece) : Prop := ∀ cs rest, ps ≠ .text cs :: rest

/-- Pieces that are read back from the source that they make. -/
def Legible : List Piece → Prop
  | [] => True
  | .text cs :: ps => cs ≠ [] ∧ '{' ∉ cs ∧ TextFree ps ∧ Legible ps
  | .markup d body :: ps => Sealed d body ∧ Legible ps

theorem scan_text {cs rest : List Char} (h : '{' ∉ cs) :
    scan (cs ++ rest) = cs.foldr consText (scan rest) := by
  induction cs with
  | nil => rfl
  | cons c cs ih =>
    have hc : c ≠ '{' := fun e => h (by simp [e])
    rw [List.cons_append, scan, ih fun hm => h (List.mem_cons_of_mem _ hm), List.foldr_cons]
    exact fun d rest e => absurd e hc

theorem foldr_consText {cs : List Char} {ps : List Piece} (hne : cs ≠ []) (h : TextFree ps) :
    cs.foldr consText ps = .text cs :: ps := by
  induction cs with
  | nil => exact absurd rfl hne
  | cons c cs ih =>
    cases cs with
    | nil =>
      cases ps with
      | nil => rfl
      | cons p ps =>
        cases p with
        | text cs => exact absurd rfl (h cs ps)
        | markup => rfl
    | cons d cs => rw [List.foldr_cons, ih (List.cons_ne_nil d cs), consText]

theorem scan_markup {d : Delimiter} {body rest : List Char} (h : Sealed d body) :
    scan ((Piece.markup d body).source ++ rest) = .markup d body :: scan rest :=
  scan_part (body_of_splitClose (h [])) rest

/-- Legible pieces are read back. -/
theorem scan_legible {ps : List Piece} (h : Legible ps) : scan (ps.flatMap Piece.source) = ps := by
  induction ps with
  | nil => simp [scan]
  | cons p ps ih =>
    cases p with
    | text cs =>
      obtain ⟨hne, plain, free, rest⟩ := h
      rw [List.flatMap_cons, Piece.source, scan_text plain, ih rest, foldr_consText hne free]
    | markup d body =>
      rw [List.flatMap_cons, scan_markup h.1, ih h.2]

theorem exists_place_append (ps qs : List Piece) (pos line : Nat) :
    ∃ pos' line', place pos line (ps ++ qs) = place pos line ps ++ place pos' line' qs :=
  ⟨_, _, place_append ps qs pos line⟩

end Markup

end SlotTemplate
