import SlotTemplate.Expr.Eval
import SlotTemplate.Proofs.Argument.Keys
import SlotTemplate.Proofs.Argument.Recognition
import SlotTemplate.Proofs.Navigation

/-!
# Lookups and their keys

A segment behind a dot is a name or an index. A name is a key as it is written. An index is read as
an integer of 64 bits and is a key as that integer is written.

* `segmentKey?`: the key that a segment stands for;
* `Digits.toDigits_value_iff`, `segmentKey?_eq_self_iff`: which segments are keys as they are
  written;
* `PathEnds`, `ofVariable_path`: how reading of a lookup ends, and where its keys lead.
-/

namespace SlotTemplate

open Argument Grammar

namespace Digits

variable {cs : List Char}

theorem digitChar_sub {c : Char} (digit : c.isDigit = true) :
    (c.toNat - '0'.toNat).digitChar = c := by
  obtain ⟨low, high⟩ := isDigit_iff.1 digit
  have zero : '0'.toNat = 48 := rfl
  apply Char.toNat_inj.1
  rw [Nat.toNat_digitChar_of_lt_ten (by omega)]
  omega

/-- Digits go on with the numeral of a number. -/
theorem toDigits_append {n : Nat} (positive : 0 < n) (digits : ∀ c ∈ cs, c.isDigit = true) :
    Nat.toDigits 10 (Nat.ofDigitChars 10 cs n) = Nat.toDigits 10 n ++ cs := by
  induction cs generalizing n with
  | nil => rw [Nat.ofDigitChars_nil, List.append_nil]
  | cons c cs ih =>
    obtain ⟨digit, others⟩ := List.forall_mem_cons.1 digits
    obtain ⟨low, high⟩ := isDigit_iff.1 digit
    have small : c.toNat - '0'.toNat < 10 := by
      have zero : '0'.toNat = 48 := rfl
      omega
    rw [Nat.ofDigitChars_cons, ih (by omega) others,
      ← Nat.toDigits_append_toDigits (by decide) positive small, Nat.toDigits_of_lt_base small,
      digitChar_sub digit, List.append_assoc, List.singleton_append]

/-- The numeral of a number starts with a zero for zero alone. -/
theorem toDigits_head {n : Nat} (zero : (Nat.toDigits 10 n).head? = some '0') : n = 0 := by
  induction n using Nat.strongRecOn with
  | ind n ih =>
    by_cases small : n < 10
    · rw [Nat.toDigits_of_lt_base small] at zero
      exact Nat.digitChar_eq_zero.1 (Option.some.inj zero)
    · have front : (Nat.toDigits 10 (n / 10)).head? = some '0' := by
        rw [Nat.toDigits_of_base_le (by decide) (by omega), List.head?_append] at zero
        cases digits : Nat.toDigits 10 (n / 10) with
        | nil => exact absurd digits Nat.toDigits_ne_nil
        | cons d ds => rwa [digits] at zero
      have none := ih (n / 10) (by omega) front
      omega

/-- A number is written as its digits are unless there are zeros in front. -/
theorem toDigits_value_iff (nonempty : cs ≠ []) (digits : ∀ c ∈ cs, c.isDigit = true) :
    Nat.toDigits 10 (value cs) = cs ↔ cs = ['0'] ∨ cs.head? ≠ some '0' := by
  cases cs with
  | nil => exact absurd rfl nonempty
  | cons c cs =>
    obtain ⟨digit, others⟩ := List.forall_mem_cons.1 digits
    have value_cons : value (c :: cs) = Nat.ofDigitChars 10 cs (c.toNat - '0'.toNat) := by
      rw [value, ← Nat.ofDigitChars_eq_foldl, Nat.ofDigitChars_cons, Nat.mul_zero, Nat.zero_add]
    constructor
    · intro written
      by_cases zero : c = '0'
      · subst zero
        have none := toDigits_head (congrArg List.head? written)
        rw [none] at written
        exact .inl written.symm
      · exact .inr fun first => zero (Option.some.inj first)
    · rintro (alone | first)
      · rw [alone]
        rfl
      · obtain ⟨low, high⟩ := isDigit_iff.1 digit
        have zero : '0'.toNat = 48 := rfl
        have nonzero : c.toNat ≠ '0'.toNat := fun same => first (by rw [Char.toNat_inj.1 same]; rfl)
        rw [value_cons, toDigits_append (by omega) others, Nat.toDigits_of_lt_base (by omega),
          digitChar_sub digit, List.singleton_append]

end Digits

/-! ## Segments -/

/-- The key that a segment stands for. A name stands for itself, and digits stand for an index of 64
bits, as it is written without zeros in front. -/
def segmentKey? (s : String) : Option String :=
  if isIdentifier s then some s
  else if (Digits.value s.toList : Int) ≤ Int64.maxValue.toInt then
    some (toString (Digits.value s.toList))
  else none

theorem ofText?_index {s : String} (index : IsIndex s) :
    Int64.ofText? s.toList = Int64.ofInt? (Digits.value s.toList) := by
  obtain ⟨nonempty, digits⟩ := index
  have value := Digits.value?_eq_some_iff.2 ⟨nonempty, digits, rfl⟩
  rw [Int64.ofText?, value, Option.bind_some]
  intro cs signed
  rw [signed] at digits
  cases digits '-' List.mem_cons_self

/-- A segment stands for what the key is written as that it is read as. -/
theorem segmentKey?_eq {s : String} (segment : IsSegment s) :
    segmentKey? s = (Key.read? s).map Key.text := by
  rcases segment with name | index
  · rw [segmentKey?, Key.read?, if_pos name, if_pos name]
    rfl
  · rw [index.read?_eq, ofText?_index index, segmentKey?, index.not_identifier,
      if_neg Bool.false_ne_true]
    cases value : Int64.ofInt? (Digits.value s.toList) with
    | some n =>
      have whole := Int64.ofInt?_eq_some_iff.1 value
      have text : (Key.index n).text = toString (Digits.value s.toList : Int) :=
        congrArg toString whole
      rw [← whole, if_pos n.toInt_le, Option.map_some, Option.map_some, text]
      rfl
    | none =>
      have low : Int64.minValue.toInt ≤ (Digits.value s.toList : Int) :=
        Int.le_trans (by decide) (Int.natCast_nonneg _)
      have high := (Int64.ofInt?_eq_none_iff.1 value).resolve_left (Int.not_lt.2 low)
      exact if_neg (Int.not_le.2 high)

theorem segmentKey?_eq_self_iff {s : String} (segment : IsSegment s) :
    segmentKey? s = some s ↔ isIdentifier s = true ∨
      (Digits.value s.toList : Int) ≤ Int64.maxValue.toInt ∧
        (s = "0" ∨ s.toList.head? ≠ some '0') := by
  rcases segment with name | index
  · rw [segmentKey?, if_pos name]
    exact iff_of_true rfl (.inl name)
  · rw [segmentKey?, index.not_identifier, if_neg Bool.false_ne_true]
    have written : toString (Digits.value s.toList) = s ↔ s = "0" ∨ s.toList.head? ≠ some '0' := by
      have zero : s = "0" ↔ s.toList = ['0'] := String.toList_inj.symm
      rw [zero, ← Digits.toDigits_value_iff index.nonempty index.digits, ← String.toList_inj]
      rw [Nat.toString_eq_ofList_toDigits, String.toList_ofList]
    by_cases fits : (Digits.value s.toList : Int) ≤ Int64.maxValue.toInt
    · rw [if_pos fits, Option.some_inj, written]
      simp [fits]
    · rw [if_neg fits]
      simp [fits]

/-! ## Lookups -/

/-- What keys lead to in maps one inside the other: what stands at the end, and null where a key is
missing. -/
inductive Value.LeadsTo : Value → List String → Value → Prop where
  | here (v : Value) : LeadsTo v [] v
  | key {fields : Dict Value} {v w : Value} {key : String} {keys : List String}
      (found : fields.get? key = some v) (behind : LeadsTo v keys w) :
      LeadsTo (.map fields) (key :: keys) w
  | missing {fields : Dict Value} {key : String} (keys : List String)
      (none : fields.get? key = none) : LeadsTo (.map fields) (key :: keys) .null

theorem Value.LeadsTo.foldl_get {v w : Value} {keys : List String} (h : v.LeadsTo keys w) :
    keys.foldl Value.get v = w := by
  induction h with
  | here => rfl
  | key found behind ih => rw [List.foldl_cons, Value.get, found, Option.getD_some, ih]
  | missing keys none =>
    rw [List.foldl_cons, Value.get, none, Option.getD_none, Value.foldl_get_null]

/-- A name with segments behind dots. -/
def pathText (name : String) (segments : List String) : String :=
  String.ofList (name.toList ++ spellKeys segments)

/-- How reading of a name with segments behind dots ends: as the lookup of the keys that the
segments stand for; or at a segment that stands for none, which is blamed alone or along with the
index next to it. -/
inductive PathEnds (name : String) (segments : List String) (offset line : Nat) :
    Except TagError Expr → Prop where
  | read {keys : List String} (each : segments.map segmentKey? = keys.map some) :
      PathEnds name segments offset line (.ok ⟨.lookup name keys, [],
        ⟨offset, offset + Text.byteSize (pathText name segments).toList⟩⟩)
  | refused {before bad after : List String} (split : segments = before ++ (bad ++ after))
      (keys : ∀ s ∈ before, segmentKey? s ≠ none) (blame : ∃ s ∈ bad, segmentKey? s = none)
      (indices : ∀ s ∈ bad, IsIndex s) (few : bad.length ≤ 2) :
      PathEnds name segments offset line (.error
        ⟨"\x7b\x7b " ++ pathText name segments ++ " \x7d\x7d",
          ⟨offset + Text.byteSize (pathText name before).toList + 1,
            offset + Text.byteSize (pathText name (before ++ bad)).toList⟩,
          line, .unexpectedCharacter⟩)

theorem lexFrom_identifier {pos : Nat} {name : String} {rest : List Char}
    (identifier : isIdentifier name = true) (stop : NoName rest) :
    lexFrom pos false (name.toList ++ rest) =
      (lexFrom (pos + Text.byteSize name.toList) false rest).map
        ((.ident name, ⟨pos, pos + Text.byteSize name.toList⟩) :: ·) := by
  obtain ⟨c, cs, e, read⟩ := step_name false identifier stop
  have spelling : spelled [(.ident name, name.toList)] = name.toList := List.append_nil _
  have last : endsWithDot [(.ident name, name.toList)] = false := rfl
  rw [e, lexFrom_tokens read, spelling, last]
  rfl

theorem byteSize_pathText (name : String) (segments : List String) :
    Text.byteSize (pathText name segments).toList =
      Text.byteSize name.toList + Text.byteSize (spellKeys segments) := by
  rw [pathText, String.toList_ofList, Text.byteSize_append]

/-- A name with keys is a lookup, whatever the name is. -/
theorem path_tree {name : String} {span : Span} {ks : List KeyForm} (nonempty : ks ≠ []) :
    (PrimaryForm.path name span ks).tree = .lookup name (ks.map (·.key.text)) := by
  cases ks with
  | nil => exact absurd rfl nonempty
  | cons k ks => simp [PrimaryForm.tree]

theorem alone_path {name : String} {span : Span} {ks : List KeyForm} (nonempty : ks ≠ []) :
    alone ((.ident name, span) :: ks.flatMap KeyForm.tokens) =
      .ok ⟨.lookup name (ks.map (·.key.text)), [],
        ⟨span.start, stopOf span.stop (ks.flatMap KeyForm.tokens)⟩⟩ := by
  have tokens : (ExprForm.mk (.path name span ks) []).tokens =
      (.ident name, span) :: ks.flatMap KeyForm.tokens := List.append_nil _
  refine alone_iff.2 ⟨⟨.path name span ks, []⟩, tokens, ?_⟩
  rw [ExprForm.draft, tokens, path_tree nonempty]
  rfl

theorem ofVariable_of_unread {text : String} {offset : Nat} {span : Span} (line : Nat)
    (unread : lex text offset = .error span) :
    Expr.ofVariable text offset line =
      .error ⟨"\x7b\x7b " ++ text ++ " \x7d\x7d", span, line, .unexpectedCharacter⟩ := by
  rw [Expr.ofVariable, readAll, unread]
  rfl

theorem pathEnds {name : String} {segments : List String} (identifier : isIdentifier name = true)
    (nonempty : segments ≠ []) (each : ∀ s ∈ segments, IsSegment s) (offset line : Nat) :
    PathEnds name segments offset line (Expr.ofVariable (pathText name segments) offset line) := by
  have lexed : lex (pathText name segments) offset =
      (lexFrom (offset + Text.byteSize name.toList) false (spellKeys segments ++ [])).map
        ((.ident name, ⟨offset, offset + Text.byteSize name.toList⟩) :: ·) := by
    have spelled : (pathText name segments).toList = name.toList ++ (spellKeys segments ++ []) := by
      rw [pathText, String.toList_ofList, List.append_nil]
    rw [lex, spelled]
    exact lexFrom_identifier identifier (stopped_nil.noName_keys segments)
  have size (some : List String) : offset + Text.byteSize name.toList +
      Text.byteSize (spellKeys some) = offset + Text.byteSize (pathText name some).toList := by
    rw [byteSize_pathText, Nat.add_assoc]
  have ends := keysEnd_lexFrom (offset + Text.byteSize name.toList) each stopped_nil
  have unread {s : String} (hs : s ∈ segments) : segmentKey? s = none ↔ Key.read? s = none := by
    rw [segmentKey?_eq (each s hs), Option.map_eq_none_iff]
  generalize lexFrom (offset + Text.byteSize name.toList) false (spellKeys segments ++ []) = r
    at ends lexed
  cases ends with
  | @refused before bad after split keys blame indices few =>
    have own {s : String} (hs : s ∈ before ++ bad) : s ∈ segments := by
      rw [split, ← List.append_assoc]
      exact List.mem_append_left _ hs
    obtain ⟨s, member, none⟩ := blame
    rw [ofVariable_of_unread line lexed, size, size]
    exact .refused split
      (fun s hs => mt (unread (own (List.mem_append_left _ hs))).1 (keys s hs))
      ⟨s, member, (unread (own (List.mem_append_right _ member))).2 none⟩ indices few
  | @read ks keys stops =>
    have some : ks ≠ [] := by
      rintro rfl
      exact nonempty (List.map_eq_nil_iff.1 keys)
    have tokens : lex (pathText name segments) offset =
        .ok ((.ident name, ⟨offset, offset + Text.byteSize name.toList⟩) ::
          ks.flatMap KeyForm.tokens) := by
      rw [lexed, lexFrom, Except.map, Except.map, List.append_nil]
    have read : Expr.ofVariable (pathText name segments) offset line =
        .ok ⟨.lookup name (ks.map (·.key.text)), [],
          ⟨offset, offset + Text.byteSize (pathText name segments).toList⟩⟩ := by
      rw [← size, ← stops]
      exact bind_eq_ok_iff.2 ⟨_, readAll_eq_ok_iff.2 ⟨_, tokens, alone_path some⟩, rfl⟩
    have texts : segments.map segmentKey? = (segments.map Key.read?).map (Option.map Key.text) := by
      rw [List.map_map]
      exact List.map_congr_left fun s hs => segmentKey?_eq (each s hs)
    rw [read]
    refine .read ?_
    rw [texts, keys, List.map_map, List.map_map]
    rfl

theorem ofVariable_of_keys {name : String} {segments keys : List String}
    (identifier : isIdentifier name = true) (nonempty : segments ≠ [])
    (each : ∀ s ∈ segments, IsSegment s) (read : segments.map segmentKey? = keys.map some)
    (offset line : Nat) :
    Expr.ofVariable (pathText name segments) offset line =
      .ok ⟨.lookup name keys, [],
        ⟨offset, offset + Text.byteSize (pathText name segments).toList⟩⟩ := by
  have ends := pathEnds identifier nonempty each offset line
  cases result : Expr.ofVariable (pathText name segments) offset line with
  | ok e =>
    rw [result] at ends
    cases ends with
    | read read' =>
      have same := (List.map_inj_right fun _ _ => Option.some.inj).1 (read'.symm.trans read)
      rw [same]
  | error e =>
    rw [result] at ends
    cases ends with
    | refused split _ blame =>
      obtain ⟨s, hs, none⟩ := blame
      have member : s ∈ segments := by
        rw [split]
        exact List.mem_append_right _ (List.mem_append_left _ hs)
      have unread := List.mem_map_of_mem member (f := segmentKey?)
      rw [read, none] at unread
      obtain ⟨key, -, e⟩ := List.mem_map.1 unread
      cases e

/-- A lookup is read with the keys that its segments stand for: names and indices as they are
written, unless an index has zeros in front that it does not need. An index that does not fit 64
bits is blamed. In maps one inside the other, the lookup leads where its keys lead. -/
theorem ofVariable_path {name : String} {segments : List String}
    (identifier : isIdentifier name = true) (nonempty : segments ≠ [])
    (each : ∀ s ∈ segments, IsSegment s) (offset line : Nat) :
    PathEnds name segments offset line (Expr.ofVariable (pathText name segments) offset line) ∧
    (∀ keys, segments.map segmentKey? = keys.map some →
      Expr.ofVariable (pathText name segments) offset line =
        .ok ⟨.lookup name keys, [],
          ⟨offset, offset + Text.byteSize (pathText name segments).toList⟩⟩) ∧
    (∀ s ∈ segments, segmentKey? s = some s ↔ isIdentifier s = true ∨
      (Digits.value s.toList : Int) ≤ Int64.maxValue.toInt ∧
        (s = "0" ∨ s.toList.head? ≠ some '0')) ∧
    ∀ (keys : List String) (span : Span) (scope : Scope) (v w : Value),
      scope.get? name = some v → v.LeadsTo keys w →
        Expr.eval ⟨.lookup name keys, [], span⟩ scope = w := by
  refine ⟨pathEnds identifier nonempty each offset line,
    fun keys read => ofVariable_of_keys identifier nonempty each read offset line,
    fun s hs => segmentKey?_eq_self_iff (each s hs), ?_⟩
  intro keys span scope v w found leads
  have value : Expr.eval ⟨.lookup name keys, [], span⟩ scope =
      keys.foldl Value.get ((scope.get? name).getD .null) := rfl
  rw [value, found, Option.getD_some, leads.foldl_get]

theorem ofVariable_path_index :
    isIdentifier "h" = true ∧ ["x", "12"] ≠ [] ∧ (∀ s ∈ ["x", "12"], IsSegment s) ∧
      Expr.ofVariable "h.x.12" 3 1 = .ok ⟨.lookup "h" ["x", "12"], [], ⟨3, 9⟩⟩ := by
  have name : isIdentifier "h" = true := by decide
  have some : ["x", "12"] ≠ [] := List.cons_ne_nil _ _
  have index : IsSegment "12" := .inr ⟨by decide, List.all_eq_true.1 (by decide)⟩
  have each : ∀ s ∈ ["x", "12"], IsSegment s :=
    List.forall_mem_cons.2 ⟨.inl (by decide), List.forall_mem_singleton.2 index⟩
  obtain ⟨-, read, -⟩ := ofVariable_path name some each 3 1
  exact ⟨name, some, each, read ["x", "12"] (by decide +kernel)⟩

/-- An index with zeros in front is no key as it is written. -/
theorem ofVariable_path_zeros :
    IsSegment "007" ∧
      Expr.ofVariable "h.007" 0 1 = .ok ⟨.lookup "h" ["7"], [], ⟨0, 5⟩⟩ ∧
      Expr.eval ⟨.lookup "h" ["7"], [], ⟨0, 5⟩⟩
        (.ofData (.ofList [("h", .map (.ofList [("007", .string "x")]))])) = .null ∧
      ¬ ∀ (name : String) (segments : List String), isIdentifier name = true → segments ≠ [] →
        (∀ s ∈ segments, IsSegment s) → ∀ offset line, ∃ span,
          Expr.ofVariable (pathText name segments) offset line =
            .ok ⟨.lookup name segments, [], span⟩ := by
  have name : isIdentifier "h" = true := by decide
  have segment : IsSegment "007" := .inr ⟨by decide, List.all_eq_true.1 (by decide)⟩
  have each : ∀ s ∈ ["007"], IsSegment s := List.forall_mem_singleton.2 segment
  have key : ["007"].map segmentKey? = ["7"].map some := by decide +kernel
  have read : Expr.ofVariable "h.007" 0 1 = .ok ⟨.lookup "h" ["7"], [], ⟨0, 5⟩⟩ :=
    ofVariable_of_keys name (List.cons_ne_nil _ _) each key 0 1
  refine ⟨segment, read, rfl, ?_⟩
  intro literal
  obtain ⟨span, same⟩ := literal "h" ["007"] name (List.cons_ne_nil _ _) each 0 1
  obtain ⟨tree, -⟩ := Expr.mk.inj (Except.ok.inj (read.symm.trans same))
  exact absurd (Primary.lookup.inj tree).2 (by decide)

end SlotTemplate
