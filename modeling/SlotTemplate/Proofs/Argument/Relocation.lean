import SlotTemplate.Proofs.Argument.Checks
import SlotTemplate.Proofs.Relocation

/-!
# Arguments at other places

* `lexFrom_relocate`: a text has the same tokens wherever it stands, and the places move with it;
* `expression_relocate`, `arguments_relocate`, `loopHeader_relocate`, `condition_relocate`: so have
  the tokens the same reading;
* `Expr.ofVariable_relocate`, `Tag.condition_relocate`, `Tag.loopHeader_relocate`,
  `Tag.invocationArguments_relocate`: so do variables and tags mean the same.
-/

namespace SlotTemplate

open Argument Grammar

section

variable (r : Relocation)

def relocateTokens (ts : List Placed) : List Placed := ts.map fun t => (t.1, t.2.relocate r)

@[simp] theorem relocateTokens_nil : relocateTokens r [] = [] := rfl

@[simp] theorem relocateTokens_cons (t : Token) (span : Span) (ts : List Placed) :
    relocateTokens r ((t, span) :: ts) = (t, span.relocate r) :: relocateTokens r ts := rfl

theorem relocateTokens_append (ts us : List Placed) :
    relocateTokens r (ts ++ us) = relocateTokens r ts ++ relocateTokens r us :=
  List.map_append

end

/-- What stands at `start` and behind it moves to `start'`. -/
def Relocation.Moves (r : Relocation) (start start' : Nat) : Prop :=
  ∀ x, r.offset (x + start) = x + start'

namespace Relocation

variable {r : Relocation} {start start' : Nat}

theorem Moves.here (h : r.Moves start start') : r.offset start = start' := by simpa using h 0

theorem Moves.add (h : r.Moves start start') (n : Nat) : r.Moves (start + n) (start' + n) :=
  fun x => by rw [Nat.add_comm start, ← Nat.add_assoc, h, Nat.add_assoc, Nat.add_comm start']

theorem shift_moves (n k start : Nat) : (shift n k).Moves start (start + n) :=
  fun x => Nat.add_assoc x start n

theorem exists_moves (start start' : Nat) : ∃ r : Relocation, r.Moves start start' :=
  ⟨⟨fun x => x - start + start', id⟩, fun x => by simp⟩

end Relocation

/-! ## Tokens -/

namespace Argument

theorem placeTokens_relocate {r : Relocation} {pos pos' : Nat} (moves : r.Moves pos pos')
    (ts : List (Token × List Char)) :
    placeTokens pos' ts = relocateTokens r (placeTokens pos ts) := by
  induction ts generalizing pos pos' with
  | nil => rfl
  | cons t ts ih =>
    obtain ⟨t, w⟩ := t
    have behind := moves.add (Text.byteSize w)
    rw [placeTokens, placeTokens, relocateTokens_cons, ← ih behind, Span.relocate, moves.here,
      behind.here]

/-- A text has the same tokens, or the same part that cannot be read, wherever it stands. -/
theorem lexFrom_relocate {r : Relocation} {pos pos' : Nat} (moves : r.Moves pos pos')
    (afterDot : Bool) (cs : List Char) :
    lexFrom pos' afterDot cs =
      ((lexFrom pos afterDot cs).map (relocateTokens r)).mapError (Span.relocate r) := by
  fun_induction lexFrom pos afterDot cs generalizing pos' with
  | case1 =>
    rw [lexFrom]
    rfl
  | case2 pos afterDot c cs _ _ read ih => rw [lexFrom_gap read, ih (moves.add _)]
  | case3 pos afterDot c cs ts rest read more lexed ih =>
    rw [lexFrom_tokens read, ih (moves.add _), lexed, placeTokens_relocate moves]
    exact congrArg Except.ok (relocateTokens_append _ _ _).symm
  | case4 pos afterDot c cs ts rest read span failed ih =>
    rw [lexFrom_tokens read, ih (moves.add _), failed]
    rfl
  | case5 pos afterDot c cs part read =>
    have start := moves.here
    have stop := (moves.add (Text.byteSize part)).here
    rw [lexFrom_fail read, ← stop, ← start]
    rfl

end Argument

/-! ## Readings -/

namespace Grammar

section

variable (r : Relocation)

def FilterCall.relocate (call : FilterCall) : FilterCall :=
  ⟨call.name, call.argument, call.span.relocate r⟩

def Draft.relocate (d : Draft) : Draft :=
  ⟨d.primary, d.calls.map (·.relocate r), d.span.relocate r⟩

/-- A named argument that is not yet checked, at other places. -/
def relocateDraft (a : (String × Span) × Draft) : (String × Span) × Draft :=
  ((a.1.1, a.1.2.relocate r), a.2.relocate r)

/-- A reading at other places; `f` moves what is read. -/
def Reading.relocate {α : Type} (f : α → α) (reading : Reading α) : Reading α :=
  ⟨f reading.value, r.offset reading.stop, relocateTokens r reading.rest, reading.next⟩

variable {stop : Nat} {next : List Expectation} {ts : List Placed}

theorem relocateTokens_ne {t : Token} (other : ∀ span rest, ts ≠ (t, span) :: rest) (span : Span)
    (rest : List Placed) : relocateTokens r ts ≠ (t, span) :: rest := by
  cases ts with
  | nil => exact nofun
  | cons u us =>
    intro e
    obtain ⟨token, place⟩ := u
    obtain ⟨first, -⟩ := List.cons.inj e
    obtain rfl : token = t := congrArg Prod.fst first
    exact other place us rfl

theorem startOf_relocate (nonempty : ts ≠ []) :
    startOf (relocateTokens r ts) = r.offset (startOf ts) := by
  cases ts with
  | nil => exact absurd rfl nonempty
  | cons t ts => rfl

theorem keys_relocate {reading : Reading (List String)} (h : keys stop ts = .ok reading) :
    keys (r.offset stop) (relocateTokens r ts) = .ok (reading.relocate r id) := by
  fun_induction keys stop ts generalizing reading with
  | case1 stop _ name span rest ih | case2 stop _ n span rest ih =>
    obtain ⟨reading, hr, rfl⟩ := map_eq_ok_iff.1 h
    exact map_eq_ok_iff.2 ⟨_, ih hr, rfl⟩
  | case3 => cases h
  | case4 stop ts _ _ other =>
    cases h
    cases ts with
    | nil => rfl
    | cons t ts =>
      obtain ⟨t, span⟩ := t
      cases t with
      | dot => exact absurd rfl (other span ts)
      | _ => rfl

theorem primary_relocate {reading : Reading Primary} (h : primary ts = .ok reading) :
    primary (relocateTokens r ts) = .ok (reading.relocate r id) := by
  unfold primary at h
  split at h
  · cases h
    rfl
  · cases h
    rfl
  · cases h
    rfl
  · obtain ⟨reading, hr, rfl⟩ := map_eq_ok_iff.1 h
    exact map_eq_ok_iff.2 ⟨_, keys_relocate r hr, rfl⟩
  · cases h

theorem filters_relocate {reading : Reading (List FilterCall)}
    (h : filters stop next ts = .ok reading) :
    filters (r.offset stop) next (relocateTokens r ts) =
      .ok (reading.relocate r (List.map (·.relocate r))) := by
  fun_induction filters stop next ts generalizing reading with
  | case1 => cases h
  | case2 stop next bar name span colon rest p hp ih =>
    obtain ⟨more, hm, rfl⟩ := map_eq_ok_iff.1 h
    simp only [relocateTokens_cons, filters_argument (primary_relocate r hp)]
    exact map_eq_ok_iff.2 ⟨_, ih hm, rfl⟩
  | case3 stop next bar name span rest other ih =>
    obtain ⟨more, hm, rfl⟩ := map_eq_ok_iff.1 h
    simp only [relocateTokens_cons, filters_named (relocateTokens_ne r other)]
    exact map_eq_ok_iff.2 ⟨_, ih hm, rfl⟩
  | case4 => cases h
  | case5 stop next ts _ other =>
    cases h
    exact filters_end (relocateTokens_ne r other)

theorem expression_relocate {reading : Reading Draft} (h : expression ts = .ok reading) :
    expression (relocateTokens r ts) = .ok (reading.relocate r (·.relocate r)) := by
  have nonempty : ts ≠ [] := by
    rintro rfl
    cases h
  unfold expression at h
  split at h
  · cases h
  · rename_i p hp
    obtain ⟨more, hm, rfl⟩ := map_eq_ok_iff.1 h
    rw [expression, primary_relocate r hp, startOf_relocate r nonempty]
    exact map_eq_ok_iff.2 ⟨_, filters_relocate r hm, rfl⟩

theorem finish_relocate {α : Type} {f : α → α} {reading : Reading α} {a : α}
    (h : finish reading = .ok a) : finish (reading.relocate r f) = .ok (f a) := by
  obtain ⟨none, rfl⟩ := finish_eq_ok_iff.1 h
  exact finish_eq_ok_iff.2 ⟨by rw [Reading.relocate, none]; rfl, rfl⟩

theorem alone_relocate {d : Draft} (h : alone ts = .ok d) :
    alone (relocateTokens r ts) = .ok (d.relocate r) := by
  unfold alone at h
  split at h
  · cases h
  · rename_i reading hr
    rw [alone, expression_relocate r hr]
    exact finish_relocate r h

theorem arguments_relocate {as : List ((String × Span) × Draft)}
    (h : arguments next ts = .ok as) :
    arguments next (relocateTokens r ts) = .ok (as.map (relocateDraft r)) := by
  fun_induction arguments next ts generalizing as with
  | case1 =>
    cases h
    rw [relocateTokens_nil, arguments]
    rfl
  | case2 => cases h
  | case3 next name span equals rest reading hr ih =>
    obtain ⟨more, hm, rfl⟩ := map_eq_ok_iff.1 h
    simp only [relocateTokens_cons]
    rw [arguments]
    split
    · rename_i failed
      cases (expression_relocate r hr).symm.trans failed
    · rename_i read
      cases (expression_relocate r hr).symm.trans read
      exact map_eq_ok_iff.2 ⟨_, ih hm, rfl⟩
  | case4 => cases h
  | case5 => cases h

theorem loopHeader_relocate {a : (String × Span) × Draft} (h : loopHeader ts = .ok a) :
    loopHeader (relocateTokens r ts) = .ok (relocateDraft r a) := by
  unfold loopHeader at h
  split at h
  · split at h
    · split at h
      · cases h
      · rename_i hr
        obtain ⟨d, hd, rfl⟩ := map_eq_ok_iff.1 h
        simp only [relocateTokens_cons, loopHeader, expression_relocate r hr]
        exact map_eq_ok_iff.2 ⟨_, finish_relocate r hd, rfl⟩
    · cases h
  · cases h

theorem condition_relocate {negated : Bool} {d : Draft} (h : condition ts = .ok (negated, d)) :
    condition (relocateTokens r ts) = .ok (negated, d.relocate r) := by
  unfold condition at h
  split at h
  · split at h
    · cases h
    · rename_i hr
      obtain ⟨d, hd, same⟩ := map_eq_ok_iff.1 h
      cases same
      simp only [relocateTokens_cons, condition, expression_relocate r hr]
      exact map_eq_ok_iff.2 ⟨_, finish_relocate r hd, rfl⟩
  · rename_i other
    split at h
    · cases h
    · rename_i hr
      obtain ⟨d, hd, same⟩ := map_eq_ok_iff.1 h
      cases same
      rw [condition.eq_def]
      split
      · rename_i e
        exact absurd e (relocateTokens_ne r other _ _)
      · rw [expression_relocate r hr]
        exact map_eq_ok_iff.2 ⟨_, finish_relocate r hd, rfl⟩

/-! ## Checks -/

theorem FilterCall.check_relocate (call : FilterCall) :
    (call.relocate r).check = call.check.map (·.relocate r) := by
  obtain ⟨name, argument, span⟩ := call
  simp only [FilterCall.relocate, FilterCall.check]
  split
  · rfl
  · rfl
  · cases FilterKind.plain? name <;> cases argument <;> rfl

variable {site site' : Site}

theorem Draft.check_relocate {d : Draft} {e : Expr} (h : d.check site = .ok e) :
    (d.relocate r).check site' = .ok (e.relocate r) := by
  obtain ⟨checked, primary, span⟩ := Draft.check_eq_ok_iff.1 h
  refine Draft.check_eq_ok_iff.2 ⟨?_, primary, congrArg (·.relocate r) span⟩
  have relocated := congrArg (List.map (Except.map (Filter.relocate r))) checked
  simpa [Draft.relocate, Expr.relocate, Function.comp_def, FilterCall.check_relocate, Except.map]
    using relocated

end

section

variable {r : Relocation} {site site' : Site} {text : String}

/-- What is read from a text that is moved. -/
theorem readAll_relocate {α : Type} {reader : List Placed → Except Stuck α} {f : α → α} {a : α}
    (moves : r.Moves site.start site'.start) (h : readAll site text reader = .ok a)
    (reads : ∀ ts, reader ts = .ok a → reader (relocateTokens r ts) = .ok (f a)) :
    readAll site' text reader = .ok (f a) := by
  obtain ⟨ts, lexed, read⟩ := readAll_eq_ok_iff.1 h
  refine readAll_eq_ok_iff.2 ⟨relocateTokens r ts, ?_, reads ts read⟩
  have same : lexFrom site.start false text.toList = .ok ts := lexed
  rw [lex, lexFrom_relocate moves, same]
  rfl

end

end Grammar

/-! ## Variables and tags -/

section

variable {r : Relocation}

/-- A variable means the same wherever it stands. -/
theorem Expr.ofVariable_relocate {contents : String} {offset offset' line : Nat} {e : Expr}
    (moves : r.Moves offset offset') (h : Expr.ofVariable contents offset line = .ok e)
    (line' : Nat) : Expr.ofVariable contents offset' line' = .ok (e.relocate r) := by
  obtain ⟨d, hd, he⟩ := bind_eq_ok_iff.1 h
  exact bind_eq_ok_iff.2
    ⟨_, readAll_relocate moves hd fun _ => alone_relocate r, Draft.check_relocate r he⟩

namespace Tag

theorem words_congr {t t' : Tag} (same : t'.contents = t.contents) : t'.words = t.words := by
  rw [Tag.words, Tag.words, same]

theorem name_congr {t t' : Tag} (same : t'.contents = t.contents) : t'.name = t.name := by
  rw [Tag.name, Tag.name, words_congr same]

theorem args_congr {t t' : Tag} (same : t'.contents = t.contents) : t'.args = t.args := by
  rw [Tag.args, Tag.args, name_congr same, same]

theorem slotName_congr {t t' : Tag} (same : t'.contents = t.contents) {name : String}
    (h : t.slotName = .ok name) : t'.slotName = .ok name := by
  unfold slotName at h ⊢
  rw [words_congr same]
  generalize t.words = words at h ⊢
  rcases words with _ | ⟨_, _ | ⟨_, _ | _⟩⟩ <;> cases h <;> rfl

variable {t t' : Tag} (same : t'.args = t.args) (moves : r.Moves t.argsOffset t'.argsOffset)

include same moves

/-- What is read from the arguments of a tag stands in another tag with the same arguments, too. -/
theorem readArgs_relocate {α : Type} {reader : List Placed → Except Stuck α} {f : α → α} {a : α}
    (h : readAll (tagSite t) t.args reader = .ok a)
    (reads : ∀ ts, reader ts = .ok a → reader (relocateTokens r ts) = .ok (f a)) :
    readAll (tagSite t') t'.args reader = .ok (f a) := by
  rw [same]
  exact readAll_relocate moves h reads

theorem condition_relocate {c : Condition} (h : t.condition = .ok c) :
    t'.condition = .ok ⟨c.negated, c.expr.relocate r⟩ := by
  obtain ⟨⟨negated, d⟩, hd, h⟩ := bind_eq_ok_iff.1 h
  obtain ⟨e, he, h⟩ := bind_eq_ok_iff.1 h
  cases h
  have moved := readArgs_relocate same moves (f := fun a => (a.1, a.2.relocate r)) hd
    fun _ => Grammar.condition_relocate r
  exact bind_eq_ok_iff.2 ⟨_, moved, bind_eq_ok_iff.2 ⟨_, Draft.check_relocate r he, rfl⟩⟩

theorem loopHeader_relocate {h : LoopHeader} (read : t.loopHeader = .ok h) :
    t'.loopHeader = .ok ⟨h.variableName, h.variableSpan.relocate r, h.iterable.relocate r⟩ := by
  obtain ⟨⟨⟨name, span⟩, d⟩, hd, read⟩ := bind_eq_ok_iff.1 read
  obtain ⟨e, he, read⟩ := bind_eq_ok_iff.1 read
  cases read
  have moved := readArgs_relocate same moves hd fun _ => Grammar.loopHeader_relocate r
  exact bind_eq_ok_iff.2 ⟨_, moved, bind_eq_ok_iff.2 ⟨_, Draft.check_relocate r he, rfl⟩⟩

omit same moves in
theorem checkArguments_relocate (r : Relocation) {site site' : Site}
    {ds : List ((String × Span) × Draft)} {as : List KeywordArgument}
    (h : checkArguments site ds = .ok as) :
    checkArguments site' (ds.map (relocateDraft r)) =
      .ok (as.map fun a => ⟨a.name, a.nameSpan.relocate r, a.value.relocate r⟩) := by
  induction ds generalizing as with
  | nil =>
    cases h
    rfl
  | cons d ds ih =>
    obtain ⟨⟨name, span⟩, d⟩ := d
    obtain ⟨e, he, h⟩ := bind_eq_ok_iff.1 h
    obtain ⟨more, hm, h⟩ := bind_eq_ok_iff.1 h
    cases h
    exact bind_eq_ok_iff.2 ⟨_, Draft.check_relocate r he, bind_eq_ok_iff.2 ⟨_, ih hm, rfl⟩⟩

theorem invocationArguments_relocate {args : List Argument} (h : t.invocationArguments = .ok args) :
    t'.invocationArguments = .ok (args.map (·.relocate r)) := by
  obtain ⟨as, has, h⟩ := bind_eq_ok_iff.1 h
  obtain ⟨ds, hds, has⟩ := bind_eq_ok_iff.1 has
  obtain ⟨rfl, distinct, -⟩ := Parser.checkDistinct_eq_ok_iff.1 h
  have moved := readArgs_relocate same moves hds fun _ => arguments_relocate r
  refine bind_eq_ok_iff.2 ⟨_, bind_eq_ok_iff.2 ⟨_, moved, checkArguments_relocate r has⟩, ?_⟩
  refine Parser.checkDistinct_eq_ok_iff.2 ⟨?_, ?_, by simp⟩
  · simp only [List.map_map]
    rfl
  · simpa [Function.comp_def] using distinct

end Tag

end

end SlotTemplate
