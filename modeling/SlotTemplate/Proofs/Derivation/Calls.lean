import SlotTemplate.Proofs.Derivation.Parsing

/-!
# What is asked of a parser

A parser is asked to read nodes, to pass over the tag that ended them and to load libraries, in any
order and also behind a step that failed. It only moves on over its lexemes, and it is left with the
tags open that it was found with.

* `Onward`: a parser that is further on, with the same tags open;
* `compile_onward`, `parseUntil_onward`: compiling and reading lead onward, also where they fail;
* `Call`, `after`: what is asked of a parser, and the parser behind all that;
* `parseUntil_after`: how reading then leaves it.
-/

namespace SlotTemplate.Parser

open Markup

/-- A parser is further on over the same lexemes, with the same tags open. -/
structure Onward (p q : Parser) : Prop where
  lexemes : q.lexemes = p.lexemes
  libraries : q.libraries = p.libraries
  pending : q.pending <:+ p.pending
  opened : q.opened = p.opened

section

variable {p q r : Parser} {tag : Tag} {lexeme : Lexeme} {rest : List Lexeme}

namespace Onward

theorem refl (p : Parser) : p.Onward p := ⟨rfl, rfl, List.suffix_refl _, rfl⟩

theorem trans (h : p.Onward q) (h' : q.Onward r) : p.Onward r :=
  ⟨h'.lexemes.trans h.lexemes, h'.libraries.trans h.libraries, h'.pending.trans h.pending,
    h'.opened.trans h.opened⟩

theorem position_le (h : p.Onward q) : p.position ≤ q.position := by
  rw [position, position, h.lexemes]
  exact Nat.sub_le_sub_left h.pending.length_le _

/-- What a tag opens is closed when the parser is done with it. -/
theorem leave (h : (p.enter tag).Onward q) : p.Onward q.leave :=
  ⟨h.lexemes, h.libraries, h.pending, congrArg List.tail h.opened⟩

end Onward

theorem advance_onward (pending : p.pending = lexeme :: rest) : p.Onward (p.advance rest) :=
  ⟨rfl, rfl, pending ▸ List.suffix_cons _ _, rfl⟩

theorem consumeEnd_onward (p : Parser) : p.Onward p.consumeEnd.2 := by
  unfold consumeEnd
  split
  · rename_i pending
    exact advance_onward pending
  · exact .refl p

theorem loadLibrary_onward (p : Parser) (name : String) (blamed : Tag) :
    p.Onward (p.loadLibrary name blamed).2 := by
  unfold loadLibrary
  split
  · exact .refl p
  · exact ⟨rfl, rfl, List.suffix_refl _, rfl⟩

theorem loadLibraries_onward (blamed : Tag) (names : List String) (p : Parser) :
    p.Onward (loadLibraries blamed names p).2 := by
  induction names generalizing p with
  | nil => exact .refl p
  | cons name names ih =>
    have loaded := p.loadLibrary_onward name blamed
    unfold loadLibraries
    split <;> rename_i result <;> rw [result] at loaded
    · exact loaded
    · exact loaded.trans (ih _)

end

/-! ## Steps -/

section

variable {s p : Parser} {α β : Type} {o : Outcome p α}

theorem Onward.map (h : s.Onward o.2.1) (f : α → β) : s.Onward (o.map f).2.1 := h

/-- A second step is taken from where the first one ended. -/
theorem Onward.andThen {f : α → (q : Parser) → q.pending.length ≤ p.pending.length → Outcome q β}
    (h : s.Onward o.2.1) (next : ∀ a (q : Parser) le, q.Onward (f a q le).2.1) :
    s.Onward (o.andThen f).2.1 := by
  obtain ⟨x, q⟩ := o
  cases x with
  | error => exact h
  | ok a => exact h.trans (next a q.1 q.2)

theorem Onward.skipEnd (h : s.Onward o.2.1) : s.Onward o.skipEnd.2.1 :=
  h.andThen fun _ q _ => q.consumeEnd_onward

end

section

variable {p : Parser} {read : Reader p}
  (reads : ∀ (q : Parser) le ends, q.Onward (read q le ends).2.1)

include reads

theorem branches_onward (middle last : String) : p.Onward (p.branches read middle last).2.1 := by
  refine (reads _ _ _).andThen fun first q le => q.consumeEnd_onward.trans ?_
  rw [Outcome.since]
  split
  · exact (reads _ _ _).skipEnd
  · exact .refl _

/-- Compiling a tag leads onward if reading does. -/
theorem compile_onward (binding : Binding) (tag : Tag) :
    p.Onward (p.compile read binding tag).2.1 := by
  cases binding with
  | conditional =>
    rw [compile]
    cases tag.condition with
    | error e => exact .refl p
    | ok c => exact branches_onward reads _ _
  | loop =>
    rw [compile]
    cases tag.loopHeader with
    | error e => exact .refl p
    | ok header => exact branches_onward reads _ _
  | load =>
    rw [compile, load]
    split
    · exact .refl p
    · exact loadLibraries_onward tag _ p
  | slot =>
    rw [compile]
    cases tag.slotName with
    | error e => exact .refl p
    | ok name => exact ((reads _ _ _).map _).skipEnd
  | slotOutput | inline | plain => exact .refl p
  | block component =>
    rw [compile]
    cases tag.invocationArguments with
    | error e => exact .refl p
    | ok args => exact (reads _ _ _).skipEnd.andThen fun _ q _ => .refl q

end

/-- Reading leads onward, whether it succeeds or not. -/
theorem parseUntil_onward (p : Parser) (ends : List String) :
    p.Onward (p.parseUntil ends).2.1 := by
  obtain ⟨n, size⟩ : ∃ n, p.pending.length = n := ⟨_, rfl⟩
  -- what a tag contains is read by parsers that are further on, so the induction is on what is
  -- pending
  induction n using Nat.strongRecOn generalizing p ends with
  | ind n ih =>
    subst size
    rw [parseUntil]
    split
    · exact .refl p
    · rename_i lexeme rest pending
      have forward := pending_advance_lt pending
      have onward := advance_onward pending
      split
      · exact onward.trans (ih _ forward _ _ rfl)
      · split
        · exact .refl p
        · exact onward.trans (ih _ forward _ _ rfl)
      · rename_i tag _
        split
        · exact .refl p
        · split
          · exact onward
          · rename_i binding _
            have further (q : Parser) (le : q.pending.length ≤ rest.length) (ends : List String) :
                q.Onward (q.parseUntil ends).2.1 :=
              ih _ (Nat.lt_of_le_of_lt le forward) q ends rfl
            have left : (p.advance rest).Onward
                (((p.advance rest).enter tag).compileHere binding tag).leave.2.1 :=
              (compile_onward further binding tag).leave
            exact onward.trans (left.andThen fun node q le => (further q le ends).map (node :: ·))

/-! ## Calls -/

/-- What is asked of a parser. A tag is entered and left around what its compilation asks. -/
inductive Call where
  | parse
  | parseUntil (ends : List String)
  | consumeEnd
  | loadLibrary (name : String) (blamed : Tag)
  | enter (tag : Tag)
  | leave

/-- The parser behind a call, whether it succeeds or not. -/
def Call.run (p : Parser) : Call → Parser
  | .parse => p.parse.2.1
  | .parseUntil ends => (p.parseUntil ends).2.1
  | .consumeEnd => p.consumeEnd.2
  | .loadLibrary name blamed => (p.loadLibrary name blamed).2
  | .enter tag => p.enter tag
  | .leave => p.leave

/-- The parser behind calls, one after another. -/
def after (p : Parser) (calls : List Call) : Parser := calls.foldl Call.run p

/-- What is pending are the last ones of the lexemes. -/
def Consistent (p : Parser) : Prop := p.pending <:+ p.lexemes

section

variable {p q : Parser} {ends : List String}

theorem Consistent.onward (h : p.Consistent) (onward : p.Onward q) : q.Consistent := by
  rw [Consistent, onward.lexemes]
  exact onward.pending.trans h

theorem Consistent.run (h : p.Consistent) (call : Call) : (call.run p).Consistent := by
  cases call with
  | parse => exact h.onward (p.parseUntil_onward [])
  | parseUntil ends => exact h.onward (p.parseUntil_onward ends)
  | consumeEnd => exact h.onward p.consumeEnd_onward
  | loadLibrary name blamed => exact h.onward (p.loadLibrary_onward name blamed)
  | enter | leave => exact h

theorem Consistent.after (h : p.Consistent) (calls : List Call) : (p.after calls).Consistent := by
  induction calls generalizing p with
  | nil => exact h
  | cons call calls ih => exact ih (h.run call)

theorem start_consistent (source : String) (builtins : Library) (libraries : Dict Library) :
    (start source builtins libraries).Consistent := List.suffix_refl _

/-- The next lexeme of a parser is the first one that is pending. -/
theorem Consistent.next (h : p.Consistent) {lexeme : Lexeme} {rest : List Lexeme}
    (pending : p.pending = lexeme :: rest) :
    p.lexemes[p.position]? = some lexeme ∧ (p.advance rest).position = p.position + 1 := by
  obtain ⟨front, split⟩ := h
  rw [pending] at split
  have here : p.position = front.length := by
    rw [position, pending, ← split, List.length_append]
    exact Nat.add_sub_cancel _ _
  refine ⟨by rw [here, ← split, List.getElem?_append_right (Nat.le_refl _), Nat.sub_self]; rfl, ?_⟩
  rw [here, position, advance]
  simp only [← split, List.length_append, List.length_cons]
  omega

end

/-- How reading up to one of the tags `ends` leaves a parser: at the end of the source if no tag is
awaited, and else in front of an awaited tag, which is what is passed over next. -/
inductive ReadsTo (ends : List String) : Except CompileError (List Node) → Parser → Prop where
  | source {ns : List Node} {q : Parser} (free : ends = [])
      (position : q.position = q.lexemes.length) : ReadsTo ends (.ok ns) q
  | tag {ns : List Node} {q r : Parser} {lexeme : Lexeme} {tag : Tag}
      (next : q.lexemes[q.position]? = some lexeme) (token : lexeme.token = .block tag)
      (awaited : tag.name ∈ ends) (consumed : q.consumeEnd = (some tag, r))
      (onward : q.Onward r) (position : r.position = q.position + 1) : ReadsTo ends (.ok ns) q
  | failed {e : CompileError} {q : Parser} : ReadsTo ends (.error e) q

theorem Derived.readsTo {p q : Parser} {ends : List String} {ns : List Node}
    (h : Derived p ends ns q) (consistent : q.Consistent) : ReadsTo ends (.ok ns) q := by
  obtain ⟨d, tags, rest, -, -, stops, rfl⟩ := h
  cases stops with
  | source =>
    refine .source rfl ?_
    rfl
  | @tag _ name closing rest named awaited =>
    obtain ⟨tag, token, rfl⟩ := named
    obtain ⟨next, position⟩ := consistent.next rfl
    exact .tag next token awaited (consumeEnd_resume token) (advance_onward rfl) position

/-- Whatever was asked of a parser before, with or without success, reading leads onward from there,
over the same lexemes and with the same tags open behind it, and ends as it should. -/
theorem parseUntil_after (source : String) (builtins : Library) (libraries : Dict Library)
    (calls : List Call) (ends : List String) :
    let p := (start source builtins libraries).after calls
    let read := p.parseUntil ends
    p.Onward read.2.1 ∧ p.position ≤ read.2.1.position ∧ read.2.1.opened = p.opened ∧
      ReadsTo ends read.1 read.2.1 := by
  intro p read
  have onward := p.parseUntil_onward ends
  have consistent : p.Consistent := (start_consistent source builtins libraries).after calls
  refine ⟨onward, onward.position_le, onward.opened, ?_⟩
  cases result : read.1 with
  | error e => exact .failed
  | ok ns => exact (derived_of_gives ⟨result, rfl⟩).readsTo (consistent.onward onward)

end SlotTemplate.Parser
