/-!
# Positions in a text

Positions are byte offsets into the UTF-8 form of a text.

* `byteSize_append`: sizes add up over a concatenation;
* `dropBytes_append`: dropping the size of a first part leaves the second;
* `isBoundary_iff`: the offsets between characters are the sizes of the first parts;
* `slice_append`: a part of a text is the slice at its place.
-/

namespace SlotTemplate

/-- A range of byte offsets; `stop` is the first offset after it. -/
structure Span where
  start : Nat
  stop : Nat
deriving DecidableEq, Inhabited

namespace Span

/-- The empty range at an offset. -/
def point (n : Nat) : Span := ⟨n, n⟩

/-- The range moved to the right. -/
def shift (s : Span) (n : Nat) : Span := ⟨s.start + n, s.stop + n⟩

end Span

namespace Text

/-- Bytes that a text takes. -/
def byteSize (cs : List Char) : Nat := cs.foldr (fun c n => c.utf8Size + n) 0

@[simp] theorem byteSize_nil : byteSize [] = 0 := rfl

@[simp] theorem byteSize_cons (c : Char) (cs : List Char) :
    byteSize (c :: cs) = c.utf8Size + byteSize cs := rfl

@[simp] theorem byteSize_append (a b : List Char) :
    byteSize (a ++ b) = byteSize a + byteSize b := by
  induction a with
  | nil => simp
  | cons c a ih => rw [List.cons_append, byteSize_cons, byteSize_cons, ih, Nat.add_assoc]

theorem byteSize_pos {cs : List Char} (h : cs ≠ []) : 0 < byteSize cs := by
  cases cs with
  | nil => exact absurd rfl h
  | cons c cs =>
    have := c.utf8Size_pos
    rw [byteSize_cons]
    omega

/-- What is left after the first `n` bytes. -/
def dropBytes : Nat → List Char → List Char
  | 0, cs => cs
  | _, [] => []
  | n, c :: cs => dropBytes (n - c.utf8Size) cs

/-- The first `n` bytes. -/
def takeBytes : Nat → List Char → List Char
  | 0, _ => []
  | _, [] => []
  | n, c :: cs => c :: takeBytes (n - c.utf8Size) cs

/-- Whether an offset lies between two characters of a text or at one of its ends. -/
def isBoundary : Nat → List Char → Bool
  | 0, _ => true
  | _, [] => false
  | n, c :: cs => decide (c.utf8Size ≤ n) && isBoundary (n - c.utf8Size) cs

/-- The part of a text that a span covers. -/
def slice (cs : List Char) (s : Span) : List Char :=
  takeBytes (s.stop - s.start) (dropBytes s.start cs)

theorem dropBytes_append (a b : List Char) : dropBytes (byteSize a) (a ++ b) = b := by
  induction a with
  | nil => simp [dropBytes]
  | cons c a ih =>
    have hc := c.utf8Size_pos
    rw [byteSize_cons, List.cons_append]
    obtain ⟨n, hn⟩ : ∃ n, c.utf8Size + byteSize a = n + 1 := ⟨c.utf8Size + byteSize a - 1, by omega⟩
    rw [hn, dropBytes, ← hn, Nat.add_sub_cancel_left, ih]
    · omega

theorem isBoundary_iff {n : Nat} {cs : List Char} :
    isBoundary n cs = true ↔ ∃ a b, cs = a ++ b ∧ n = byteSize a := by
  constructor
  · intro h
    fun_induction isBoundary n cs with
    | case1 cs => exact ⟨[], cs, rfl, rfl⟩
    | case2 => simp at h
    | case3 n c cs _ ih =>
      simp only [Bool.and_eq_true, decide_eq_true_eq] at h
      obtain ⟨a, b, rfl, hn⟩ := ih h.2
      refine ⟨c :: a, b, rfl, ?_⟩
      rw [byteSize_cons]
      omega
  · rintro ⟨a, b, rfl, rfl⟩
    induction a with
    | nil => simp [isBoundary]
    | cons c a ih =>
      have hc := c.utf8Size_pos
      rw [byteSize_cons, List.cons_append]
      obtain ⟨n, hn⟩ : ∃ n, c.utf8Size + byteSize a = n + 1 :=
        ⟨c.utf8Size + byteSize a - 1, by omega⟩
      rw [hn, isBoundary, ← hn, Nat.add_sub_cancel_left, ih]
      · simp
      · omega

theorem isBoundary_append (a b : List Char) : isBoundary (byteSize a) (a ++ b) = true :=
  isBoundary_iff.2 ⟨a, b, rfl, rfl⟩

theorem takeBytes_append (a b : List Char) : takeBytes (byteSize a) (a ++ b) = a := by
  induction a with
  | nil => simp [takeBytes]
  | cons c a ih =>
    have hc := c.utf8Size_pos
    rw [byteSize_cons, List.cons_append]
    obtain ⟨n, hn⟩ : ∃ n, c.utf8Size + byteSize a = n + 1 := ⟨c.utf8Size + byteSize a - 1, by omega⟩
    rw [hn, takeBytes, ← hn, Nat.add_sub_cancel_left, ih]
    · omega

theorem slice_append (a b c : List Char) :
    slice (a ++ (b ++ c)) ⟨byteSize a, byteSize a + byteSize b⟩ = b := by
  rw [slice, dropBytes_append, Nat.add_sub_cancel_left, takeBytes_append]

/-- Line breaks in a text. -/
def newlines (cs : List Char) : Nat := cs.count '\n'

@[simp] theorem newlines_append (a b : List Char) :
    newlines (a ++ b) = newlines a + newlines b := by
  simp [newlines]

end Text

end SlotTemplate
