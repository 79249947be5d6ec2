import SlotTemplate.Text.Case
import SlotTemplate.Text.Escape

/-!
# Texts without markup

* `escape_bare`: an escaped text has no markup, whatever it was made from;
* `upper_bare`, `lower_bare`, `title_bare`: a change of case brings no markup into a text.
-/

namespace SlotTemplate.Text

/-- Whether a character opens or closes a tag or an attribute. -/
def isMarkup (c : Char) : Bool := c == '<' || c == '>' || c == '"' || c == '\''

/-- A text without markup. -/
def Bare (cs : List Char) : Prop := ∀ c ∈ cs, isMarkup c = false

instance (cs : List Char) : Decidable (Bare cs) :=
  List.decidableBAll (fun c => isMarkup c = false) cs

theorem bare_nil : Bare [] := List.forall_mem_nil _

theorem Bare.append {a b : List Char} (ha : Bare a) (hb : Bare b) : Bare (a ++ b) :=
  List.forall_mem_append.2 ⟨ha, hb⟩

theorem Bare.flatMap {f : Char → List Char} {cs : List Char} (h : ∀ c ∈ cs, Bare (f c)) :
    Bare (cs.flatMap f) := by
  intro d hd
  obtain ⟨c, hc, hd⟩ := List.mem_flatMap.1 hd
  exact h c hc d hd

theorem entity_bare (c : Char) : Bare (entity c) := by
  unfold entity
  split
  · decide
  split
  · decide
  split
  · decide
  split
  · decide
  split
  · decide
  · intro d hd
    obtain rfl := List.mem_singleton.1 hd
    simp_all [isMarkup]

theorem escape_bare (cs : List Char) : Bare (escape cs) := Bare.flatMap fun c _ => entity_bare c

theorem toNat_of_isMarkup {c : Char} (h : isMarkup c = true) : 0 < c.toNat ∧ c.toNat ≤ 62 := by
  simp only [isMarkup, Bool.or_eq_true, beq_iff_eq] at h
  rcases h with ((rfl | rfl) | rfl) | rfl <;> decide

/-- All markup lies below the letters. -/
theorem not_isMarkup_ofNat {n : Nat} (h : 62 < n) : isMarkup (Char.ofNat n) = false := by
  have code : (Char.ofNat n).toNat = n ∨ (Char.ofNat n).toNat = 0 := by
    by_cases valid : n.isValidChar
    · exact .inl (by rw [Char.ofNat, dif_pos valid]; rfl)
    · exact .inr (by rw [Char.ofNat, dif_neg valid]; rfl)
  apply Bool.eq_false_iff.2
  intro markup
  have := toNat_of_isMarkup markup
  omega

/-- The images of a case mapping lie above all markup. -/
theorem mapCase_bare {runs : List CaseRun} {expansions : List (Nat × List Nat)} {c : Char}
    (hr : runs.all (fun r => decide (62 < (r.first : Int) + r.shift)) = true)
    (he : expansions.all (fun e => e.2.all (62 < ·)) = true) (hc : isMarkup c = false) :
    Bare (mapCase runs expansions c) := by
  unfold mapCase
  split
  · rename_i n codes found
    intro d hd
    obtain ⟨code, hcode, rfl⟩ := List.mem_map.1 hd
    have all := List.all_eq_true.1 he _ (List.mem_of_find?_eq_some found)
    exact not_isMarkup_ofNat (of_decide_eq_true (List.all_eq_true.1 all code hcode))
  split
  · rename_i r found
    intro d hd
    obtain rfl := List.mem_singleton.1 hd
    have bound := of_decide_eq_true (List.all_eq_true.1 hr r (List.mem_of_find?_eq_some found))
    have covers := List.find?_some found
    simp only [CaseRun.covers, Bool.and_eq_true, decide_eq_true_eq] at covers
    exact not_isMarkup_ofNat (by omega)
  · intro d hd
    obtain rfl := List.mem_singleton.1 hd
    exact hc

theorem upperChar_bare {c : Char} (h : isMarkup c = false) : Bare (upperChar c) :=
  mapCase_bare (by decide +kernel) (by decide +kernel) h

theorem lowerChar_bare {c : Char} (h : isMarkup c = false) : Bare (lowerChar c) :=
  mapCase_bare (by decide +kernel) (by decide +kernel) h

theorem upper_bare {cs : List Char} (h : Bare cs) : Bare (upper cs) :=
  Bare.flatMap fun c hc => upperChar_bare (h c hc)

theorem lowerAfter_bare {cs : List Char} (before : List Char) (h : Bare cs) :
    Bare (lowerAfter before cs) := by
  induction cs generalizing before with
  | nil => exact bare_nil
  | cons c cs ih =>
    obtain ⟨hc, hcs⟩ := List.forall_mem_cons.1 h
    refine Bare.append ?_ (ih (c :: before) hcs)
    split
    · split
      · decide
      · decide
    · exact lowerChar_bare hc

theorem lower_bare {cs : List Char} (h : Bare cs) : Bare (lower cs) := lowerAfter_bare [] h

theorem titleFrom_bare {cs : List Char} (wordStart : Bool) (h : Bare cs) :
    Bare (titleFrom wordStart cs) := by
  induction cs generalizing wordStart with
  | nil => exact bare_nil
  | cons c cs ih =>
    obtain ⟨hc, hcs⟩ := List.forall_mem_cons.1 h
    refine Bare.append ?_ (ih _ hcs)
    split
    · exact upperChar_bare hc
    · exact lowerChar_bare hc

theorem title_bare {cs : List Char} (h : Bare cs) : Bare (title cs) := titleFrom_bare true h

end SlotTemplate.Text
