import SlotTemplate.Proofs.Argument.Forms
import SlotTemplate.Proofs.Argument.Steps
import SlotTemplate.Proofs.Printing

/-!
# Keys behind dots

A segment behind a dot is a name or an index, and it is read as a key unless it is an index that
does not fit 64 bits. Two indices side by side are read at once.

* `step_signed`, `step_name`: a step that starts with a number or a name reads it;
* `Key.read?`: the key that a segment is read as;
* `KeysEnd`, `keysEnd_lexFrom`: how lexing of segments ends, before any text that does not go on
  with them.
-/

namespace SlotTemplate

open Argument Grammar

namespace Argument

/-! ## Names and numbers -/

/-- A text does not go on with a name, a number or a key. -/
def Stopped (cs : List Char) : Prop := NoName cs ∧ ∀ r, cs ≠ '.' :: r

theorem stopped_nil : Stopped [] := ⟨by rintro _ ⟨⟩, by rintro _ ⟨⟩⟩

theorem stopped_cons {c : Char} (part : isIdentPart c = false) (dot : c ≠ '.') (cs : List Char) :
    Stopped (c :: cs) := by
  refine ⟨?_, ?_⟩
  · rintro _ ⟨⟩
    exact part
  · rintro _ ⟨⟩
    exact dot rfl

theorem isDigit_iff {c : Char} : c.isDigit = true ↔ 48 ≤ c.toNat ∧ c.toNat ≤ 57 := by
  simp only [Char.isDigit, Bool.and_eq_true, decide_eq_true_eq, ge_iff_le,
    UInt32.le_iff_toNat_le]
  rfl

theorem isAlpha_iff {c : Char} : c.isAlpha = true ↔
    (65 ≤ c.toNat ∧ c.toNat ≤ 90) ∨ (97 ≤ c.toNat ∧ c.toNat ≤ 122) := by
  have upper : c.isUpper = true ↔ 65 ≤ c.toNat ∧ c.toNat ≤ 90 := decide_eq_true_iff
  have lower : c.isLower = true ↔ 97 ≤ c.toNat ∧ c.toNat ≤ 122 :=
    Bool.and_eq_true_iff.trans (and_congr decide_eq_true_iff decide_eq_true_iff)
  exact Bool.or_eq_true_iff.trans (or_congr upper lower)

theorem not_isIdentStart_of_isDigit {c : Char} (h : c.isDigit = true) : isIdentStart c = false := by
  have range := isDigit_iff.1 h
  apply Bool.eq_false_iff.2
  intro start
  simp only [isIdentStart, Bool.or_eq_true, isAlpha_iff, beq_iff_eq] at start
  rcases start with letter | rfl
  · omega
  · exact absurd range.2 (by decide)

theorem step_number {afterDot : Bool} {c : Char} {cs whole rest : List Char}
    (hc : c.isDigit = true ∨ c = '-') (split : signedDigits? (c :: cs) = some (whole, rest)) :
    step afterDot c cs = number afterDot whole rest := by
  have other {d : Char} (hd : d.isDigit = false) (hm : d ≠ '-') : c ≠ d := by
    rintro rfl
    rcases hc with hc | hc
    · rw [hd] at hc
      cases hc
    · exact hm hc
  have notGap : isGap c = false := by
    simp [isGap, other (d := ' ') (by decide), other (d := '\t') (by decide),
      other (d := '\n') (by decide), other (d := '\r') (by decide)]
  have notStart : isIdentStart c = false := by
    rcases hc with hc | rfl
    · exact not_isIdentStart_of_isDigit hc
    · decide
  simp [step, notGap, notStart, split, other (d := '=') (by decide), other (d := '|') (by decide),
    other (d := ':') (by decide), other (d := '.') (by decide), other (d := '"') (by decide),
    other (d := '\'') (by decide)]

/-- A step that starts with digits reads a number. -/
theorem step_signed (afterDot : Bool) {whole rest : List Char} (signed : SignedDigits whole)
    (stop : NoDigit rest) :
    ∃ c cs, whole ++ rest = c :: cs ∧ step afterDot c cs = number afterDot whole rest := by
  have split := signedDigits?_eq_some_iff.2 ⟨rfl, signed, stop⟩
  obtain ⟨ds, form, nonempty, digits⟩ := signed
  obtain ⟨c, cs, rfl, first⟩ : ∃ c cs, whole = c :: cs ∧ (c.isDigit = true ∨ c = '-') := by
    obtain rfl | rfl := form
    · cases whole with
      | nil => exact absurd rfl nonempty
      | cons d ds => exact ⟨d, ds, rfl, .inl (digits d List.mem_cons_self)⟩
    · exact ⟨'-', ds, rfl, .inr rfl⟩
  exact ⟨c, cs ++ rest, rfl, step_number first split⟩

/-- A step that starts with a name reads it. -/
theorem step_name (afterDot : Bool) {name : String} {rest : List Char}
    (identifier : isIdentifier name = true) (stop : NoName rest) :
    ∃ c cs, name.toList ++ rest = c :: cs ∧
      step afterDot c cs = .tokens [(.ident name, name.toList)] rest := by
  obtain ⟨c, cs, spelled, start, parts⟩ := exists_of_isIdentifier identifier
  have other {d : Char} (hd : isIdentStart d = false) : c ≠ d := by
    rintro rfl
    rw [hd] at start
    cases start
  obtain ⟨take, drop⟩ := Text.run_append parts stop
  have word : name = String.ofList (c :: cs) := by rw [← spelled, String.ofList_toList]
  have notGap : isGap c = false := by
    simp [isGap, other (d := ' ') (by decide), other (d := '\t') (by decide),
      other (d := '\n') (by decide), other (d := '\r') (by decide)]
  refine ⟨c, cs ++ rest, by rw [spelled, List.cons_append], ?_⟩
  simp [step, notGap, other (d := '=') (by decide), other (d := '|') (by decide),
    other (d := ':') (by decide), other (d := '.') (by decide), start,
    take, drop, word]

theorem noDigit_of_identifier {k : String} (h : isIdentifier k = true) (rest : List Char) :
    NoDigit (k.toList ++ rest) := by
  obtain ⟨c, cs, spelled, start, -⟩ := exists_of_isIdentifier h
  rw [spelled]
  rintro _ ⟨⟩
  apply Bool.eq_false_iff.2
  intro digit
  rw [not_isIdentStart_of_isDigit digit] at start
  cases start

end Argument

/-! ## Segments -/

/-- Digits alone, at least one. -/
structure IsIndex (s : String) : Prop where
  nonempty : s.toList ≠ []
  digits : ∀ c ∈ s.toList, c.isDigit = true

theorem IsIndex.signed {s : String} (index : IsIndex s) : SignedDigits s.toList :=
  ⟨s.toList, .inl rfl, index.nonempty, index.digits⟩

/-- What may stand behind a dot: a name, or digits. -/
def IsSegment (s : String) : Prop := isIdentifier s = true ∨ IsIndex s

theorem IsIndex.not_identifier {s : String} (index : IsIndex s) : isIdentifier s = false := by
  obtain ⟨nonempty, digits⟩ := index
  apply Bool.eq_false_iff.2
  intro identifier
  obtain ⟨c, cs, spelled, start, -⟩ := exists_of_isIdentifier identifier
  rw [not_isIdentStart_of_isDigit (digits c (by rw [spelled]; exact List.mem_cons_self))] at start
  cases start

theorem isIndex_numeral {n : Int64} (nonneg : 0 ≤ n.toInt) : IsIndex (toString n.toInt) := by
  obtain ⟨ds, nonempty, digits, ⟨-, form⟩ | ⟨neg, -⟩⟩ := Int64.numeral_form n
  · have spelled : (toString n.toInt).toList = ds := form
    exact ⟨by rwa [spelled], by rwa [spelled]⟩
  · omega

theorem IsKey.segment {k : String} (h : IsKey k) : IsSegment k := by
  rcases h with name | ⟨n, nonneg, rfl⟩
  · exact .inl name
  · exact .inr (isIndex_numeral nonneg)

theorem spellKeys_cons (k : String) (ks : List String) (rest : List Char) :
    spellKeys (k :: ks) ++ rest = '.' :: (k.toList ++ (spellKeys ks ++ rest)) := by
  simp [spellKeys]

/-- The key that a segment is read as. -/
def Grammar.Key.read? (s : String) : Option Key :=
  if isIdentifier s then some (.name s) else (Int64.ofText? s.toList).map .index

theorem IsIndex.read?_eq {s : String} (index : IsIndex s) :
    Key.read? s = (Int64.ofText? s.toList).map .index := by
  rw [Key.read?, index.not_identifier, if_neg Bool.false_ne_true]

namespace Argument

theorem Stopped.noName_keys {rest : List Char} (stop : Stopped rest) (ks : List String) :
    NoName (spellKeys ks ++ rest) := by
  cases ks with
  | nil => exact stop.1
  | cons k ks =>
    rintro _ ⟨⟩
    decide

/-- A key behind a dot that stands at an offset. -/
def keyAt (pos : Nat) (s : String) (key : Key) : KeyForm :=
  ⟨⟨pos, pos + 1⟩, key, ⟨pos + 1, pos + 1 + Text.byteSize s.toList⟩⟩

variable {pos : Nat} {s s' : String} {segments : List String} {rest : List Char}

theorem lexFrom_dot (cs : List Char) :
    lexFrom pos false ('.' :: cs) =
      (lexFrom (pos + 1) true cs).map ((.dot, ⟨pos, pos + 1⟩) :: ·) := by
  have read : step false '.' cs = .tokens [(.dot, ['.'])] cs := by simp [step, isGap]
  exact lexFrom_tokens read

/-- A key behind a dot that is one token. -/
theorem lexFrom_key {c : Char} {cs : List Char} {key : Key}
    (read : step true c cs = .tokens [(key.token, s.toList)] rest) :
    lexFrom pos false ('.' :: c :: cs) =
      (lexFrom (pos + 1 + Text.byteSize s.toList) false rest).map
        ((keyAt pos s key).tokens ++ ·) := by
  have spelling : spelled [(key.token, s.toList)] = s.toList := List.append_nil _
  have last : endsWithDot [(key.token, s.toList)] = false := by cases key <;> rfl
  rw [lexFrom_dot, lexFrom_tokens read, spelling, last]
  cases lexFrom (pos + 1 + Text.byteSize s.toList) false rest <;> rfl

theorem lexFrom_name (identifier : isIdentifier s = true) (stop : NoName rest) :
    lexFrom pos false ('.' :: (s.toList ++ rest)) =
      (lexFrom (pos + 1 + Text.byteSize s.toList) false rest).map
        ((keyAt pos s (.name s)).tokens ++ ·) := by
  obtain ⟨c, cs, e, read⟩ := step_name true identifier stop
  rw [e]
  exact lexFrom_key read

/-- A key behind a dot that cannot be read. -/
theorem lexFrom_unread {c : Char} {cs part : List Char} (read : step true c cs = .fail part) :
    lexFrom pos false ('.' :: c :: cs) = .error ⟨pos + 1, pos + 1 + Text.byteSize part⟩ := by
  rw [lexFrom_dot, lexFrom_fail read]
  rfl

/-- An index that no other one follows is read alone. -/
theorem step_index (index : IsIndex s) (stop : NoDigit rest)
    (single : ∀ r, rest = '.' :: r → NoDigit r) :
    ∃ c cs, s.toList ++ rest = c :: cs ∧ step true c cs = integer s.toList rest := by
  obtain ⟨c, cs, e, read⟩ := step_signed true index.signed stop
  exact ⟨c, cs, e, read.trans (number_plain single)⟩

/-- Two indices are read at once. -/
theorem step_pair (index : IsIndex s) (index' : IsIndex s') (stop : NoDigit rest) :
    ∃ c cs, s.toList ++ '.' :: (s'.toList ++ rest) = c :: cs ∧
      step true c cs = pointed true s.toList s'.toList rest := by
  have point : NoDigit ('.' :: (s'.toList ++ rest)) := by
    rintro _ ⟨⟩
    decide
  obtain ⟨c, cs, e, read⟩ := step_signed true index.signed point
  obtain ⟨take, drop⟩ := Text.run_append index'.digits stop
  refine ⟨c, cs, e, read.trans ?_⟩
  rw [number]
  simp only [take, drop]
  exact if_neg (by simpa using index'.nonempty)

theorem lexFrom_pair {a b : Int64} {c : Char} {cs : List Char}
    (read : step true c cs =
      .tokens [(.int a, s.toList), (.dot, ['.']), (.int b, s'.toList)] rest) :
    lexFrom pos false ('.' :: c :: cs) =
      ((lexFrom (pos + 1 + Text.byteSize s.toList + 1 + Text.byteSize s'.toList) false rest).map
        ((keyAt (pos + 1 + Text.byteSize s.toList) s' (.index b)).tokens ++ ·)).map
        ((keyAt pos s (.index a)).tokens ++ ·) := by
  have spelling : Text.byteSize (spelled [(.int a, s.toList), (.dot, ['.']), (.int b, s'.toList)]) =
      Text.byteSize s.toList + (1 + Text.byteSize s'.toList) := by
    simp [spelled]
    rfl
  have last : endsWithDot [(.int a, s.toList), (.dot, ['.']), (.int b, s'.toList)] = false := rfl
  rw [lexFrom_dot, lexFrom_tokens read, spelling, last, ← Nat.add_assoc, ← Nat.add_assoc]
  cases lexFrom (pos + 1 + Text.byteSize s.toList + 1 + Text.byteSize s'.toList) false rest <;> rfl

/-! ## All keys -/

/-- How lexing of segments behind dots ends: all are keys, and what stands behind them is read as it
is elsewhere; or a segment is no key, which is blamed alone or along with the index next to it that
is read at once. -/
inductive KeysEnd (pos : Nat) (segments : List String) (rest : List Char) :
    Except Span (List Placed) → Prop where
  | read {ks : List KeyForm} (each : segments.map Key.read? = ks.map fun k => some k.key)
      (stops : stopOf pos (ks.flatMap KeyForm.tokens) =
        pos + Text.byteSize (spellKeys segments)) :
      KeysEnd pos segments rest
        ((lexFrom (pos + Text.byteSize (spellKeys segments)) false rest).map
          (ks.flatMap KeyForm.tokens ++ ·))
  | refused {before bad after : List String} (split : segments = before ++ (bad ++ after))
      (keys : ∀ s ∈ before, Key.read? s ≠ none) (blame : ∃ s ∈ bad, Key.read? s = none)
      (indices : ∀ s ∈ bad, IsIndex s) (few : bad.length ≤ 2) :
      KeysEnd pos segments rest (.error ⟨pos + Text.byteSize (spellKeys before) + 1,
        pos + Text.byteSize (spellKeys (before ++ bad))⟩)

theorem byteSize_spellKeys_cons (s : String) (segments : List String) :
    Text.byteSize (spellKeys (s :: segments)) =
      1 + Text.byteSize s.toList + Text.byteSize (spellKeys segments) := by
  have spelling : spellKeys (s :: segments) = '.' :: (s.toList ++ spellKeys segments) := rfl
  rw [spelling, Text.byteSize_cons, Text.byteSize_append, Nat.add_assoc]
  rfl

namespace KeysEnd

/-- One more key in front. -/
theorem cons {r : Except Span (List Placed)} {key : Key} (first : Key.read? s = some key)
    (h : KeysEnd (pos + 1 + Text.byteSize s.toList) segments rest r) :
    KeysEnd pos (s :: segments) rest (r.map ((keyAt pos s key).tokens ++ ·)) := by
  have size := byteSize_spellKeys_cons s
  cases h with
  | @read ks each stops =>
    have each' : (s :: segments).map Key.read? =
        (keyAt pos s key :: ks).map fun k => some k.key := by
      rw [List.map_cons, List.map_cons, first, each]
      rfl
    have place : pos + Text.byteSize (spellKeys (s :: segments)) =
        pos + 1 + Text.byteSize s.toList + Text.byteSize (spellKeys segments) := by
      rw [size, ← Nat.add_assoc, ← Nat.add_assoc]
    have joined (x : Except Span (List Placed)) :
        (x.map (ks.flatMap KeyForm.tokens ++ ·)).map ((keyAt pos s key).tokens ++ ·) =
          x.map ((keyAt pos s key :: ks).flatMap KeyForm.tokens ++ ·) := by
      cases x <;> rfl
    rw [joined, ← place]
    exact .read each' (stops.trans place.symm)
  | @refused before bad after split keys blame indices few =>
    have key : Key.read? s ≠ none := by
      rw [first]
      exact Option.some_ne_none _
    have split' : s :: segments = (s :: before) ++ (bad ++ after) := congrArg (s :: ·) split
    have whole : KeysEnd pos (s :: segments) rest _ :=
      .refused split' (List.forall_mem_cons.2 ⟨key, keys⟩) blame indices few
    rw [List.cons_append, size, size, ← Nat.add_assoc, ← Nat.add_assoc, ← Nat.add_assoc,
      ← Nat.add_assoc] at whole
    exact whole

/-- The first segments are no keys. -/
theorem refuse {bad after : List String} (blame : ∃ s ∈ bad, Key.read? s = none)
    (indices : ∀ s ∈ bad, IsIndex s) (few : bad.length ≤ 2) :
    KeysEnd pos (bad ++ after) rest (.error ⟨pos + 1, pos + Text.byteSize (spellKeys bad)⟩) :=
  .refused (List.nil_append _).symm (List.forall_mem_nil _) blame indices few

/-- An index in front that no other one follows. -/
theorem index (index : IsIndex s) (stop : NoDigit (spellKeys segments ++ rest))
    (single : ∀ r, spellKeys segments ++ rest = '.' :: r → NoDigit r)
    (h : ∀ pos, KeysEnd pos segments rest (lexFrom pos false (spellKeys segments ++ rest))) :
    KeysEnd pos (s :: segments) rest
      (lexFrom pos false ('.' :: (s.toList ++ (spellKeys segments ++ rest)))) := by
  obtain ⟨c, cs, e, read⟩ := step_index index stop single
  rw [e]
  cases value : Int64.ofText? s.toList with
  | some n =>
    have whole : integer s.toList (spellKeys segments ++ rest) =
        .tokens [((Key.index n).token, s.toList)] (spellKeys segments ++ rest) := by
      rw [integer, value]
      rfl
    rw [lexFrom_key (read.trans whole)]
    exact .cons (by rw [index.read?_eq, value]; rfl) (h _)
  | none =>
    have whole : integer s.toList (spellKeys segments ++ rest) = .fail s.toList := by
      rw [integer, value]
    have large : Key.read? s = none := by
      rw [index.read?_eq, value]
      rfl
    have size : pos + 1 + Text.byteSize s.toList = pos + Text.byteSize (spellKeys [s]) := by
      rw [byteSize_spellKeys_cons, Nat.add_assoc]
      rfl
    have refused : KeysEnd pos ([s] ++ segments) rest _ :=
      .refuse ⟨s, List.mem_cons_self, large⟩ (List.forall_mem_singleton.2 index) (Nat.le_succ 1)
    rw [lexFrom_unread (read.trans whole), size]
    exact refused

/-- Two indices in front. -/
theorem pair (index : IsIndex s) (index' : IsIndex s')
    (stop : NoDigit (spellKeys segments ++ rest))
    (h : ∀ pos, KeysEnd pos segments rest (lexFrom pos false (spellKeys segments ++ rest))) :
    KeysEnd pos (s :: s' :: segments) rest (lexFrom pos false
      ('.' :: (s.toList ++ '.' :: (s'.toList ++ (spellKeys segments ++ rest))))) := by
  obtain ⟨c, cs, e, read⟩ := step_pair index index' stop
  rw [e]
  have refused (blame : ∃ t ∈ [s, s'], Key.read? t = none)
      (large : pointed true s.toList s'.toList (spellKeys segments ++ rest) =
        .fail (s.toList ++ '.' :: s'.toList)) :
      KeysEnd pos (s :: s' :: segments) rest (lexFrom pos false ('.' :: c :: cs)) := by
    have spelling : spellKeys [s, s'] = '.' :: (s.toList ++ '.' :: s'.toList) := by simp [spellKeys]
    have size : pos + 1 + Text.byteSize (s.toList ++ '.' :: s'.toList) =
        pos + Text.byteSize (spellKeys [s, s']) := by
      rw [spelling, Text.byteSize_cons, Nat.add_assoc]
      rfl
    have indices : ∀ t ∈ [s, s'], IsIndex t :=
      List.forall_mem_cons.2 ⟨index, List.forall_mem_singleton.2 index'⟩
    have whole : KeysEnd pos ([s, s'] ++ segments) rest _ := .refuse blame indices (Nat.le_refl 2)
    rw [lexFrom_unread (read.trans large), size]
    exact whole
  have first := index.read?_eq
  have second := index'.read?_eq
  cases value : Int64.ofText? s.toList with
  | none =>
    rw [value] at first
    refine refused ⟨s, List.mem_cons_self, first⟩ ?_
    rw [pointed, if_pos rfl, value]
  | some n =>
    rw [value] at first
    cases value' : Int64.ofText? s'.toList with
    | none =>
      rw [value'] at second
      refine refused ⟨s', List.mem_cons_of_mem _ List.mem_cons_self, second⟩ ?_
      rw [pointed, if_pos rfl, value, value']
    | some n' =>
      rw [value'] at second
      have whole : pointed true s.toList s'.toList (spellKeys segments ++ rest) =
          .tokens [(.int n, s.toList), (.dot, ['.']), (.int n', s'.toList)]
            (spellKeys segments ++ rest) := by
        rw [pointed, if_pos rfl, value, value']
      rw [lexFrom_pair (read.trans whole)]
      exact .cons first (.cons second (h _))

end KeysEnd

/-- By induction on how many segments there are, since two indices are read at once. -/
theorem keysEnd_lexFrom (pos : Nat) (each : ∀ s ∈ segments, IsSegment s) (stop : Stopped rest) :
    KeysEnd pos segments rest (lexFrom pos false (spellKeys segments ++ rest)) := by
  induction size : segments.length using Nat.strongRecOn generalizing pos segments with
  | ind n ih =>
    subst size
    cases segments with
    | nil =>
      have none : KeysEnd pos [] rest
          ((lexFrom pos false rest).map (([] : List KeyForm).flatMap KeyForm.tokens ++ ·)) :=
        .read rfl rfl
      have same : (lexFrom pos false rest).map (([] : List KeyForm).flatMap KeyForm.tokens ++ ·) =
          lexFrom pos false rest := by
        cases lexFrom pos false rest <;> rfl
      exact same ▸ none
    | cons s segments =>
      obtain ⟨first, others⟩ := List.forall_mem_cons.1 each
      have more (pos : Nat) := ih segments.length (Nat.lt_succ_self _) pos others rfl
      have next := stop.noName_keys segments
      rw [spellKeys_cons]
      rcases first with name | index
      · rw [lexFrom_name name next]
        exact .cons (if_pos name) (more _)
      · cases segments with
        | nil => exact .index index next.noDigit (fun r e => absurd e (stop.2 r)) more
        | cons s' segments =>
          obtain ⟨second, behind⟩ := List.forall_mem_cons.1 others
          rcases second with name | index'
          · refine .index index next.noDigit (fun r e => ?_) more
            rw [spellKeys_cons] at e
            cases e
            exact noDigit_of_identifier name _
          · have shorter : segments.length < (s :: s' :: segments).length := by
              simp only [List.length_cons]
              omega
            have more (pos : Nat) := ih segments.length shorter pos behind rfl
            rw [spellKeys_cons]
            exact .pair index index' (stop.noName_keys segments).noDigit more

end Argument

end SlotTemplate
