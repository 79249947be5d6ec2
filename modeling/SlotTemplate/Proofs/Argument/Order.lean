import SlotTemplate.Expr.Grammar
import SlotTemplate.Proofs.Argument.Steps
import SlotTemplate.Proofs.Result

/-!
# The places of arguments

* `lexFrom_between`: the tokens of a text stand one behind another in it;
* `expression_yields`, `arguments_yields`: so does what is read from them, and where reading gets
  stuck the tokens that are left do.
-/

namespace SlotTemplate

/-- A range between two offsets. -/
structure Span.Within (s : Span) (start stop : Nat) : Prop where
  starts : start ≤ s.start
  ordered : s.start ≤ s.stop
  stops : s.stop ≤ stop

theorem Span.Within.mono {s : Span} {start start' stop : Nat} (h : s.Within start stop)
    (le : start' ≤ start) : s.Within start' stop :=
  ⟨Nat.le_trans le h.starts, h.ordered, h.stops⟩

/-- Things with places that are not empty stand one behind another from an offset on. -/
def Successive {α : Type} (place : α → Span) : Nat → List α → Prop
  | _, [] => True
  | n, a :: as =>
    n ≤ (place a).start ∧ (place a).start < (place a).stop ∧ Successive place (place a).stop as

namespace Successive

variable {α β : Type} {place : α → Span} {n : Nat} {as : List α} {bs : List β}

/-- Only the places count. -/
theorem of_map_eq {place' : β → Span} (same : as.map place = bs.map place')
    (h : Successive place n as) : Successive place' n bs := by
  induction as generalizing n bs with
  | nil =>
    cases bs with
    | nil => trivial
    | cons b bs => cases same
  | cons a as ih =>
    cases bs with
    | nil => cases same
    | cons b bs =>
      obtain ⟨here, there⟩ := List.cons.inj same
      rw [Successive, ← here]
      exact ⟨h.1, h.2.1, ih there h.2.2⟩

end Successive

namespace Argument

/-- Tokens stand one behind another between two offsets. -/
def Between (start stop : Nat) : List Placed → Prop
  | [] => start ≤ stop
  | t :: ts => start ≤ t.2.start ∧ t.2.start < t.2.stop ∧ Between t.2.stop stop ts

namespace Between

variable {start start' stop : Nat} {ts : List Placed}

theorem le (h : Between start stop ts) : start ≤ stop := by
  induction ts generalizing start with
  | nil => exact h
  | cons t ts ih =>
    have := ih h.2.2
    have := h.1
    have := h.2.1
    omega

theorem mono (h : Between start stop ts) (le : start' ≤ start) : Between start' stop ts := by
  cases ts with
  | nil => exact Nat.le_trans le h
  | cons t ts => exact ⟨Nat.le_trans le h.1, h.2⟩

theorem head {t : Placed} (h : Between start stop (t :: ts)) : t.2.Within start stop :=
  ⟨h.1, Nat.le_of_lt h.2.1, h.2.2.le⟩

end Between

theorem spelling_ne_of_step {afterDot : Bool} {c : Char} {rest rest' : List Char}
    {ts : List (Token × List Char)} (h : step afterDot c rest = .tokens ts rest') :
    ∀ t ∈ ts, t.2 ≠ [] := by
  obtain ⟨t, w, rfl, spelt, -⟩ | ⟨a, b, w, w', rfl, first, second⟩ := step_shape h
  · exact List.forall_mem_singleton.2 spelt
  · simp [first, second]

theorem placeTokens_between {pos stop : Nat} {ts : List (Token × List Char)} {more : List Placed}
    (h : ∀ t ∈ ts, t.2 ≠ []) (rest : Between (pos + Text.byteSize (spelled ts)) stop more) :
    Between pos stop (placeTokens pos ts ++ more) := by
  induction ts generalizing pos with
  | nil => exact rest
  | cons t ts ih =>
    obtain ⟨here, there⟩ := List.forall_mem_cons.1 h
    refine ⟨Nat.le_refl _, ?_, ih there (by simpa [spelled, Nat.add_assoc] using rest)⟩
    have := Text.byteSize_pos here
    simp only
    omega

/-- The tokens of a text stand one behind another in it. -/
theorem lexFrom_between {pos : Nat} {afterDot : Bool} {cs : List Char} {ts : List Placed}
    (h : lexFrom pos afterDot cs = .ok ts) : Between pos (pos + Text.byteSize cs) ts := by
  fun_induction lexFrom pos afterDot cs generalizing ts with
  | case1 =>
    cases h
    exact Nat.le_refl _
  | case2 pos _ c cs _ _ _ ih =>
    rw [Text.byteSize_cons, ← Nat.add_assoc]
    exact (ih h).mono (Nat.le_add_right _ _)
  | case3 pos _ c cs ts rest step more hm ih =>
    cases h
    rw [(step_tokens step).1, Text.byteSize_append, ← Nat.add_assoc]
    exact placeTokens_between (spelling_ne_of_step step) (ih hm)
  | case4 => cases h
  | case5 => cases h

end Argument

namespace Grammar

open Argument

variable {α β : Type} {start start' stop : Nat} {ts : List Placed}

/-- A reader of tokens between two offsets yields a result with a property, or gets stuck before
tokens that are left. -/
def Yields (start stop : Nat) (P : α → Prop) : Except Stuck α → Prop
  | .ok a => P a
  | .error s => ∃ n, start ≤ n ∧ Between n stop s.rest

namespace Yields

variable {P : α → Prop} {Q : β → Prop} {x : Except Stuck α}

theorem map {f : α → β} (h : Yields start stop P x) (le : start' ≤ start)
    (imp : ∀ a, P a → Q (f a)) : Yields start' stop Q (x.map f) := by
  cases x with
  | error s =>
    obtain ⟨n, le', between⟩ := h
    exact ⟨n, Nat.le_trans le le', between⟩
  | ok a => exact imp a h

/-- Where a reader gets stuck, one that calls it gets stuck. -/
theorem stuck {s : Stuck} (h : Yields start stop P (.error s)) (le : start' ≤ start) :
    Yields start' stop Q (.error s) := by
  obtain ⟨n, le', between⟩ := h
  exact ⟨n, Nat.le_trans le le', between⟩

end Yields

/-- Something is read up to a place between two offsets, and the tokens behind it are left. -/
structure Reading.Stands (start stop : Nat) (r : Reading α) : Prop where
  le : start ≤ r.stop
  rest : Between r.stop stop r.rest

theorem keys_yields (before : Between start stop ts) :
    Yields start stop (Reading.Stands start stop) (keys start ts) := by
  fun_induction keys start ts with
  | case1 start _ name span rest ih | case2 start _ n span rest ih =>
    obtain ⟨le, lt, le', lt', between⟩ := before
    have further : start ≤ span.stop := by
      simp only at *
      omega
    exact (ih between).map further fun r h => ⟨Nat.le_trans further h.le, h.rest⟩
  | case3 =>
    obtain ⟨le, lt, between⟩ := before
    exact ⟨_, Nat.le_of_lt (Nat.lt_of_le_of_lt le lt), between⟩
  | case4 => exact ⟨Nat.le_refl _, before⟩

/-- A reading of tokens stops behind the start of the first one. -/
structure Reading.Begins (start stop : Nat) (ts : List Placed) (r : Reading α) : Prop where
  starts : start ≤ startOf ts
  lt : startOf ts < r.stop
  rest : Between r.stop stop r.rest

theorem primary_yields (before : Between start stop ts) :
    Yields start stop (Reading.Begins start stop ts) (primary ts) := by
  unfold primary
  split
  · exact ⟨before.1, before.2.1, before.2.2⟩
  · exact ⟨before.1, before.2.1, before.2.2⟩
  · exact ⟨before.1, before.2.1, before.2.2⟩
  · obtain ⟨le, lt, between⟩ := before
    refine (keys_yields between).map (Nat.le_of_lt (Nat.lt_of_le_of_lt le lt)) fun r h => ?_
    exact ⟨le, Nat.lt_of_lt_of_le lt h.le, h.rest⟩
  · exact ⟨start, Nat.le_refl _, before⟩

theorem filters_yields {next : List Expectation} (before : Between start stop ts) :
    Yields start stop
      (fun r => r.Stands start stop ∧ ∀ call ∈ r.value, call.span.Within start stop)
      (filters start next ts) := by
  fun_induction filters start next ts with
  | case1 start next bar name span colon rest e he =>
    obtain ⟨le, lt, le', lt', le'', lt'', between⟩ := before
    have failed := primary_yields between
    rw [he] at failed
    refine failed.stuck ?_
    simp only at *
    omega
  | case2 start next bar name span colon rest p hp ih =>
    obtain ⟨le, lt, le', lt', le'', lt'', between⟩ := before
    have read := primary_yields between
    rw [hp] at read
    obtain ⟨starts, far, left⟩ := read
    have behind : bar.start ≤ p.stop := by
      simp only at *
      omega
    have further : start ≤ p.stop := Nat.le_trans le behind
    refine (ih left).map further fun r h => ⟨⟨Nat.le_trans further h.1.le, h.1.rest⟩, ?_⟩
    exact List.forall_mem_cons.2 ⟨⟨le, behind, left.le⟩, fun call hc => (h.2 call hc).mono further⟩
  | case3 start next bar name span rest _ ih =>
    obtain ⟨le, lt, le', lt', between⟩ := before
    have behind : bar.start ≤ span.stop := by
      simp only at *
      omega
    have further : start ≤ span.stop := Nat.le_trans le behind
    refine (ih between).map further fun r h => ⟨⟨Nat.le_trans further h.1.le, h.1.rest⟩, ?_⟩
    exact List.forall_mem_cons.2
      ⟨⟨le, behind, between.le⟩, fun call hc => (h.2 call hc).mono further⟩
  | case4 =>
    obtain ⟨le, lt, between⟩ := before
    exact ⟨_, Nat.le_of_lt (Nat.lt_of_le_of_lt le lt), between⟩
  | case5 => exact ⟨⟨Nat.le_refl _, before⟩, List.forall_mem_nil _⟩

/-- An expression stands between two offsets, and so do its filters. -/
structure Draft.Stands (start stop : Nat) (d : Draft) : Prop where
  starts : start ≤ d.span.start
  ordered : d.span.start < d.span.stop
  calls : ∀ call ∈ d.calls, call.span.Within start stop

theorem Draft.Stands.mono {d : Draft} (h : d.Stands start stop) (le : start' ≤ start) :
    d.Stands start' stop :=
  ⟨Nat.le_trans le h.starts, h.ordered, fun call hc => (h.calls call hc).mono le⟩

theorem expression_yields (before : Between start stop ts) :
    Yields start stop
      (fun r => r.value.Stands start stop ∧ Between r.value.span.stop stop r.rest)
      (expression ts) := by
  have first := primary_yields before
  unfold expression
  split
  · rename_i e he
    rw [he] at first
    exact first.stuck (Nat.le_refl _)
  · rename_i p hp
    rw [hp] at first
    obtain ⟨starts, lt, left⟩ := first
    have further : start ≤ p.stop := Nat.le_of_lt (Nat.lt_of_le_of_lt starts lt)
    refine (filters_yields left).map further fun r h => ⟨⟨starts, ?_, ?_⟩, h.1.rest⟩
    · exact Nat.lt_of_lt_of_le lt h.1.le
    · exact fun call hc => (h.2 call hc).mono further

/-- Nothing may follow an expression. -/
theorem finish_yields {r : Reading Draft} (value : r.value.Stands start stop)
    (left : Between r.value.span.stop stop r.rest) :
    Yields start stop (Draft.Stands start stop) (finish r) := by
  unfold finish
  split
  · exact value
  · exact ⟨_, Nat.le_of_lt (Nat.lt_of_le_of_lt value.starts value.ordered), left⟩

theorem alone_yields (before : Between start stop ts) :
    Yields start stop (Draft.Stands start stop) (alone ts) := by
  have read := expression_yields before
  unfold alone
  split
  · rename_i e he
    rw [he] at read
    exact read.stuck (Nat.le_refl _)
  · rename_i r hr
    rw [hr] at read
    exact finish_yields read.1 read.2

theorem condition_yields (before : Between start stop ts) :
    Yields start stop (fun c => c.2.Stands start stop) (condition ts) := by
  unfold condition
  split
  · obtain ⟨le, lt, between⟩ := before
    have further := Nat.le_of_lt (Nat.lt_of_le_of_lt le lt)
    have read := expression_yields between
    split
    · rename_i e he
      rw [he] at read
      exact read.stuck further
    · rename_i r hr
      rw [hr] at read
      exact (finish_yields read.1 read.2).map further fun d h => h.mono further
  · have read := expression_yields before
    split
    · rename_i e he
      rw [he] at read
      obtain ⟨n, le, left⟩ := read
      refine ⟨n, le, ?_⟩
      split
      · exact left
      · exact left
    · rename_i r hr
      rw [hr] at read
      exact (finish_yields read.1 read.2).map (Nat.le_refl _) fun d h => h

theorem loopHeader_yields (before : Between start stop ts) :
    Yields start stop (fun header => header.2.Stands start stop) (loopHeader ts) := by
  unfold loopHeader
  split
  · obtain ⟨le, lt, between⟩ := before
    have named := Nat.le_of_lt (Nat.lt_of_le_of_lt le lt)
    split
    · obtain ⟨le', lt', between⟩ := between
      have further := Nat.le_trans named (Nat.le_of_lt (Nat.lt_of_le_of_lt le' lt'))
      have read := expression_yields between
      split
      · rename_i e he
        rw [he] at read
        exact read.stuck further
      · rename_i r hr
        rw [hr] at read
        exact (finish_yields read.1 read.2).map further fun d h => h.mono further
    · exact ⟨_, named, between⟩
  · exact ⟨_, Nat.le_refl _, before⟩

/-- Where a named argument stands that is not yet checked. -/
def draftSpan (a : (String × Span) × Draft) : Span := ⟨a.1.2.start, a.2.span.stop⟩

/-- Arguments that are read from tokens one behind another stand one behind another. -/
theorem arguments_yields {next : List Expectation} (before : Between start stop ts) :
    Yields start stop
      (fun as => Successive draftSpan start as ∧
        ∀ a ∈ as, a.1.2.Within start stop ∧ a.2.Stands start stop)
      (arguments next ts) := by
  fun_induction arguments next ts generalizing start with
  | case1 => exact ⟨trivial, List.forall_mem_nil _⟩
  | case2 next name span equals rest e he =>
    obtain ⟨le, lt, le', lt', between⟩ := before
    have failed := expression_yields between
    rw [he] at failed
    refine failed.stuck ?_
    simp only at *
    omega
  | case3 next name span equals rest r hr ih =>
    have named := before.head
    obtain ⟨le, lt, le', lt', between⟩ := before
    have read := expression_yields between
    rw [hr] at read
    obtain ⟨value, left⟩ := read
    have ordered := value.ordered
    have starts := value.starts
    have to_value : start ≤ equals.stop ∧ span.start < r.value.span.stop := by
      simp only at *
      omega
    have further : start ≤ r.value.span.stop := by omega
    refine (ih left).map further fun as h => ⟨⟨le, to_value.2, h.1⟩, ?_⟩
    refine List.forall_mem_cons.2 ⟨⟨named, value.mono to_value.1⟩, fun a ha => ?_⟩
    exact ⟨(h.2 a ha).1.mono further, (h.2 a ha).2.mono further⟩
  | case4 next name span rest _ =>
    obtain ⟨le, lt, between⟩ := before
    exact ⟨_, Nat.le_of_lt (Nat.lt_of_le_of_lt le lt), between⟩
  | case5 => exact ⟨_, Nat.le_refl _, before⟩

end Grammar

end SlotTemplate
