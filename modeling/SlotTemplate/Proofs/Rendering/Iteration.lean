import SlotTemplate.Proofs.Rendering.Concatenation
import SlotTemplate.Proofs.Rendering.Items

/-!
# Loops run their body

A loop evaluates what it runs through once. Its body is rendered for one item after another, each
time in the scope around the loop with one more frame, until a run fails. What stands in a body,
other loops among it, leaves that frame as it is.

* `IterationFrame`: what the frame of a run holds, and `iterationFrame_loopFrame`: it does;
* `Engine.Runs`: runs that succeed, one after another;
* `Engine.LoopEnds`: the ways in which a loop ends;
* `Engine.renderNodes_loop_ends`: a loop ends in these ways alone.
-/

namespace SlotTemplate

open Rendering

/-! ## The frame of a run -/

/-- What the frame of a run holds: the item under the loop's variable, and under `forloop`, if that
is not the variable, where the run stands; and nothing else. -/
structure IterationFrame (variableName : String) (index total : Nat) (item : Value)
    (frame : Data) : Prop where
  item : frame.get? variableName = some item
  forloop : variableName ≠ "forloop" → frame.get? "forloop" = some (.map (Dict.ofList [
    ("counter", .int (Int64.ofNat (index + 1))), ("counter0", .int (Int64.ofNat index)),
    ("first", .bool (index == 0)), ("last", .bool (index + 1 == total))]))
  other : ∀ name, name ≠ variableName → name ≠ "forloop" → frame.get? name = none

section

variable {variableName : String} {index total : Nat} {item : Value} {frame frame' : Data}

theorem iterationFrame_loopFrame (variableName : String) (index total : Nat) (item : Value) :
    IterationFrame variableName index total item (loopFrame variableName index total item) := by
  have outer (v : Value) (name : String) :
      (Dict.ofList [("forloop", v)]).get? name = if "forloop" = name then some v else none :=
    Dict.get?_insert Dict.empty "forloop" name v
  constructor
  · rw [loopFrame, Dict.get?_insert_self]
  · intro other
    rw [loopFrame, Dict.get?_insert_of_ne _ _ other, outer, if_pos rfl]
  · intro name other forloop
    rw [loopFrame, Dict.get?_insert_of_ne _ _ other.symm, outer, if_neg forloop.symm]

/-- A frame of a run has one value at most under a name. -/
theorem IterationFrame.get?_eq (h : IterationFrame variableName index total item frame)
    (h' : IterationFrame variableName index total item frame') (name : String) :
    frame.get? name = frame'.get? name := by
  by_cases itself : name = variableName
  · subst itself
    rw [h.item, h'.item]
  by_cases forloop : name = "forloop"
  · subst forloop
    rw [h.forloop (Ne.symm itself), h'.forloop (Ne.symm itself)]
  rw [h.other name itself forloop, h'.other name itself forloop]

end

/-- What the body of a loop sees in one of its runs: the item, where the run stands, and all else as
it is seen outside of the loop. Counters are numbers of 64 bits. -/
structure SeesRun (s : Scope) (variableName : String) (index total : Nat) (item : Value)
    (inner : Scope) : Prop where
  item : inner.get? variableName = some item
  counter : variableName ≠ "forloop" → ∃ n, inner.lookup ["forloop", "counter"] = .int n ∧
    (index + 1 ≤ Int64.maxValue.toInt → n.toInt = index + 1)
  counter0 : variableName ≠ "forloop" → ∃ n, inner.lookup ["forloop", "counter0"] = .int n ∧
    (index ≤ Int64.maxValue.toInt → n.toInt = index)
  first : variableName ≠ "forloop" →
    inner.lookup ["forloop", "first"] = .bool (decide (index = 0))
  last : variableName ≠ "forloop" →
    inner.lookup ["forloop", "last"] = .bool (decide (index + 1 = total))
  other : ∀ name, name ≠ variableName → name ≠ "forloop" → inner.get? name = s.get? name

theorem IterationFrame.sees {variableName : String} {index total : Nat} {item : Value}
    {frame : Data} (h : IterationFrame variableName index total item frame) (s : Scope) :
    SeesRun s variableName index total item (s.push frame) := by
  have exact (n : Nat) (small : n ≤ Int64.maxValue.toInt) : (Int64.ofNat n).toInt = n := by
    have largest : Int64.maxValue.toInt = 9223372036854775807 := rfl
    exact Int64.toInt_ofNat_of_lt (by omega)
  have member {key : String} {fields : Data} (forloop : frame.get? "forloop" = some (.map fields)) :
      (s.push frame).lookup ["forloop", key] = (fields.get? key).getD .null := by
    simp only [Scope.lookup, Scope.get?_push, forloop, Option.some_or, Option.getD_some,
      List.foldl_cons, List.foldl_nil, Value.get]
  constructor
  · rw [Scope.get?_push, h.item, Option.some_or]
  · intro other
    refine ⟨Int64.ofNat (index + 1), ?_, exact (index + 1)⟩
    simp [member (h.forloop other), Dict.ofList, Dict.insertAll, Dict.get?_insert]
  · intro other
    refine ⟨Int64.ofNat index, ?_, exact index⟩
    simp [member (h.forloop other), Dict.ofList, Dict.insertAll, Dict.get?_insert]
  · intro other
    simp [member (h.forloop other), Dict.ofList, Dict.insertAll, Dict.get?_insert,
      Bool.beq_eq_decide_eq]
  · intro other
    simp [member (h.forloop other), Dict.ofList, Dict.insertAll, Bool.beq_eq_decide_eq]
  · intro name other forloop
    rw [Scope.get?_push, h.other name other forloop, Option.none_or]

/-- In an ordered scope, the body of a loop over ordered items stands in ordered scopes, too. -/
theorem Scope.Ordered.push_loopFrame {s : Scope} (h : s.Ordered) {item : Value}
    (hi : item.Ordered) (variableName : String) (index total : Nat) :
    (s.push (loopFrame variableName index total item)).Ordered := by
  have numbers : ∀ p ∈ [("counter", Value.int (Int64.ofNat (index + 1))),
      ("counter0", .int (Int64.ofNat index)), ("first", .bool (index == 0)),
      ("last", .bool (index + 1 == total))], p.2.Ordered := by
    simp [Value.Ordered.int, Value.Ordered.bool]
  have forloop := Value.Ordered.map Dict.ordered_empty.insertAll (Dict.all_empty.insertAll numbers)
  exact h.push ((Dict.all_empty.insert forloop).insert hi)

namespace Engine

/-! ## Runs -/

section

variable (e : Engine) (files : Files) (depth : Nat) (scope : Scope) (variableName : String)

/-- Runs of a body that succeed, one after another from an index on, each with its text. -/
inductive Runs (total : Nat) (body : List Node) :
    Nat → List Value → List String → Cache → Cache → Prop where
  | nil (index : Nat) (cache : Cache) : Runs total body index [] [] cache cache
  | cons {index : Nat} {item : Value} {items : List Value} {frame : Data} {text : String}
      {texts : List String} {cache between compiled : Cache}
      (holds : IterationFrame variableName index total item frame)
      (here : e.renderNodes files depth body ⟨scope.push frame, "", cache⟩ =
        (.ok (), ⟨scope.push frame, text, between⟩))
      (rest : Runs total body (index + 1) items texts between compiled) :
      Runs total body index (item :: items) (text :: texts) cache compiled

/-- The ways in which a loop ends, with what it writes: without items as the nodes that stand in for
its body, in the scope around it; or with the texts of all runs; or at the first run that fails. -/
inductive LoopEnds (items : List Value) (body instead : List Node) (cache : Cache) :
    Except RenderError Unit → String → Cache → Prop where
  | empty {result : Except RenderError Unit} {text : String} {compiled : Cache}
      (none : items = [])
      (renders : e.renderNodes files depth instead ⟨scope, "", cache⟩ =
        (result, ⟨scope, text, compiled⟩)) :
      LoopEnds items body instead cache result text compiled
  | complete {texts : List String} {compiled : Cache} (some : items ≠ [])
      (runs : e.Runs files depth scope variableName items.length body 0 items texts cache
        compiled) :
      LoopEnds items body instead cache (.ok ()) (String.join texts) compiled
  | stopped {before after : List Value} {item : Value} {frame : Data} {texts : List String}
      {text : String} {err : RenderError} {between compiled : Cache}
      (split : items = before ++ item :: after)
      (runs : e.Runs files depth scope variableName items.length body 0 before texts cache between)
      (holds : IterationFrame variableName before.length items.length item frame)
      (fails : e.renderNodes files depth body ⟨scope.push frame, "", between⟩ =
        (.error err, ⟨scope.push frame, text, compiled⟩)) :
      LoopEnds items body instead cache (.error err) (String.join texts ++ text) compiled

end

variable {e : Engine} {files : Files} {depth : Nat} {scope : Scope} {variableName : String}
  {total : Nat} {body instead : List Node} {items : List Value} {cache compiled : Cache}

/-- A run of the body in any frame of a run is what the loop does for the item. -/
theorem withFrame_run {index : Nat} {item : Value} {frame : Data}
    {result : Except RenderError Unit} {text : String}
    (holds : IterationFrame variableName index total item frame)
    (run : e.renderNodes files depth body ⟨scope.push frame, "", cache⟩ =
      (result, ⟨scope.push frame, text, compiled⟩)) (out : String) :
    withFrame (loopFrame variableName index total item) (e.renderNodes files depth body)
      ⟨scope, out, cache⟩ = (result, ⟨scope, out ++ text, compiled⟩) := by
  have same (name : String) : (scope.push frame).get? name =
      (scope.push (loopFrame variableName index total item)).get? name := by
    rw [Scope.get?_push, Scope.get?_push,
      holds.get?_eq (iterationFrame_loopFrame variableName index total item)]
  rw [withFrame, renderNodes_run_of_same same run]
  rfl

/-- Runs that succeed are behind a loop once it has come to the items that follow. -/
theorem Runs.forItems {index : Nat} {texts : List String}
    (h : e.Runs files depth scope variableName total body index items texts cache compiled)
    (after : List Value) (out : String) :
    forItems variableName total (e.renderNodes files depth body) index (items ++ after)
        ⟨scope, out, cache⟩ =
      forItems variableName total (e.renderNodes files depth body) (index + items.length) after
        ⟨scope, out ++ String.join texts, compiled⟩ := by
  induction h generalizing out with
  | nil index cache =>
    rw [List.nil_append, String.join_nil, String.append_empty]
    rfl
  | @cons index item items frame text texts cache between compiled holds here rest ih =>
    rw [List.cons_append, Rendering.forItems, bind_run, withFrame_run holds here, String.join_cons,
      ← String.append_assoc, List.length_cons, Nat.add_comm items.length, ← Nat.add_assoc]
    exact ih (out ++ text)

/-- All runs succeed, or there is a first one that fails. -/
theorem runs_or_fails (e : Engine) (files : Files) (depth : Nat) (scope : Scope)
    (variableName : String) (total : Nat) (body : List Node) (index : Nat) (items : List Value)
    (cache : Cache) :
    (∃ texts compiled,
      e.Runs files depth scope variableName total body index items texts cache compiled) ∨
    ∃ before item after frame texts between text err compiled, items = before ++ item :: after ∧
      e.Runs files depth scope variableName total body index before texts cache between ∧
      IterationFrame variableName (index + before.length) total item frame ∧
      e.renderNodes files depth body ⟨scope.push frame, "", between⟩ =
        (.error err, ⟨scope.push frame, text, compiled⟩) := by
  induction items generalizing index cache with
  | nil => exact .inl ⟨[], cache, .nil index cache⟩
  | cons item items ih =>
    have holds := iterationFrame_loopFrame variableName index total item
    obtain ⟨result, text, between, run⟩ := exists_renderNodes e files depth body
      (scope.push (loopFrame variableName index total item)) cache
    cases result with
    | error err =>
      exact .inr ⟨[], item, items, _, [], cache, text, err, between, rfl, .nil index cache, holds,
        run⟩
    | ok =>
      obtain ⟨texts, compiled, rest⟩ |
        ⟨before, failing, after, frame, texts, last, text', err, compiled, rfl, runs, there,
          fails⟩ := ih (index + 1) between
      · exact .inl ⟨_, compiled, .cons holds run rest⟩
      · have place : index + (item :: before).length = index + 1 + before.length := by
          rw [List.length_cons]
          omega
        exact .inr ⟨item :: before, failing, after, frame, _, last, text', err, compiled, rfl,
          .cons holds run runs, place ▸ there, fails⟩

/-! ## Loops -/

/-- Every loop ends in one of the ways. -/
theorem exists_loopEnds (e : Engine) (files : Files) (depth : Nat) (scope : Scope)
    (variableName : String) (items : List Value) (body instead : List Node) (cache : Cache) :
    ∃ result text compiled,
      e.LoopEnds files depth scope variableName items body instead cache result text compiled := by
  by_cases none : items = []
  · obtain ⟨result, text, compiled, run⟩ := exists_renderNodes e files depth instead scope cache
    exact ⟨result, text, compiled, .empty none run⟩
  obtain ⟨texts, compiled, runs⟩ |
    ⟨before, item, after, frame, texts, between, text, err, compiled, split, runs, holds, fails⟩ :=
    runs_or_fails e files depth scope variableName items.length body 0 items cache
  · exact ⟨_, _, compiled, .complete none runs⟩
  · rw [Nat.zero_add] at holds
    exact ⟨_, _, compiled, .stopped split runs holds fails⟩

/-- A loop renders as it ends. -/
theorem LoopEnds.run {result : Except RenderError Unit} {text : String} {iterable : Expr}
    (h : e.LoopEnds files depth scope variableName (iterable.eval scope).items body instead cache
      result text compiled) (out : String) :
    e.renderNodes files depth [.loop variableName iterable body instead] ⟨scope, out, cache⟩ =
      (result, ⟨scope, out ++ text, compiled⟩) := by
  have single : e.renderNodes files depth [.loop variableName iterable body instead] = (do
      let items := (← eval iterable).items
      let body := e.renderNodes files depth body
      if items.isEmpty then e.renderNodes files depth instead
      else Rendering.forItems variableName items.length body 0 items) := by
    rw [renderNodes, renderAll_singleton, Node.render]
    rfl
  rw [single, bind_run, eval_run]
  cases h with
  | empty none renders =>
    simp only [none, List.isEmpty_nil, if_true]
    exact renderNodes_run_of_same (fun _ => rfl) renders out
  | complete some runs =>
    simp only [List.isEmpty_iff, some, if_false]
    have all := runs.forItems [] out
    rw [List.append_nil] at all
    exact all
  | stopped split runs holds fails =>
    rename_i before after item frame texts text err between
    have some : (iterable.eval scope).items ≠ [] := by simp [split]
    simp only [List.isEmpty_iff, some, if_false]
    have stops := runs.forItems (item :: after) out
    rw [← split, Nat.zero_add, Rendering.forItems, bind_run, withFrame_run holds fails,
      String.append_assoc] at stops
    exact stops

/-- A loop in a scope evaluates what it runs through there and ends in one of the ways: without
items as the nodes that stand in for its body, or after one run of its body for each item in order,
with their texts one behind another, or at the first run that fails. A run sees its item and where
it stands in a frame of its own. Whatever nodes a body starts with, other loops among them, the
nodes behind those see the same. Maps are in order in all that a rendering comes to
(`Engine.loops_ordered`). -/
theorem renderNodes_loop_ends (e : Engine) (files : Files) (depth : Nat) {s : Scope}
    (ordered : s.Ordered) {iterable : Expr} (literals : iterable.Ordered) (variableName : String)
    (body instead : List Node) (cache : Cache) :
    ∃ items, (iterable.eval s).Yields items ∧
      (∃ result text compiled,
        e.LoopEnds files depth s variableName items body instead cache result text compiled) ∧
      (∀ result text compiled,
        e.LoopEnds files depth s variableName items body instead cache result text compiled →
          ∀ out, e.renderNodes files depth [.loop variableName iterable body instead]
            ⟨s, out, cache⟩ = (result, ⟨s, out ++ text, compiled⟩)) ∧
      ∀ index item frame, IterationFrame variableName index items.length item frame →
        SeesRun s variableName index items.length item (s.push frame) ∧
        ∀ ns ms out cache, ∃ result text compiled,
          e.renderNodes files depth ns ⟨s.push frame, out, cache⟩ =
            (result, ⟨s.push frame, out ++ text, compiled⟩) ∧
          (result = .ok () → e.renderNodes files depth (ns ++ ms) ⟨s.push frame, out, cache⟩ =
            e.renderNodes files depth ms ⟨s.push frame, out ++ text, compiled⟩) := by
  have yields := (Expr.ordered_eval literals ordered).yields_items
  refine ⟨_, yields, exists_loopEnds e files depth s variableName _ body instead cache,
    fun _ _ _ ends => ends.run,
    fun index item frame holds => ⟨holds.sees s, fun ns ms out cache => ?_⟩⟩
  obtain ⟨result, text, compiled, alone⟩ := exists_renderNodes e files depth ns (s.push frame) cache
  have run := renderNodes_run_of_same (fun _ => rfl) alone out
  refine ⟨result, text, compiled, run, ?_⟩
  rintro rfl
  have both : e.renderNodes files depth (ns ++ ms) = (do
      e.renderNodes files depth ns
      e.renderNodes files depth ms) := renderAll_append _ _ _ _
  rw [both, bind_run, run]

theorem renderNodes_loop_ends_nested :
    let e := Engine.default
    let files := Files.inDirectory []
    let data := Dict.ofList [("m", .map (Dict.ofList [("b", .null), ("a", .int 1)]))]
    let s := Scope.ofData data
    let read (name : String) (keys : List String) : Expr := ⟨.lookup name keys, [], ⟨0, 0⟩⟩
    let inner : Node := .loop "c" (read "k" []) [.variable (read "forloop" ["last"])] []
    let body := [.variable (read "forloop" ["counter"]), inner, .variable (read "k" []),
      .variable (read "forloop" ["last"])]
    s.Ordered ∧ (read "m" []).Ordered ∧
      ∃ items compiled, ((read "m" []).eval s).Yields items ∧
        e.LoopEnds files 0 s "k" items body [] e.cache (.ok ()) "1trueafalse2truebtrue" compiled ∧
        e.renderNodes files 0 [.loop "k" (read "m" []) body []] ⟨s, "", e.cache⟩ =
          (.ok (), ⟨s, "1trueafalse2truebtrue", compiled⟩) := by
  intro e files data s read inner body
  have fields : ∀ p ∈ [("b", Value.null), ("a", .int 1)], p.2.Ordered := by
    simp [Value.Ordered.null, Value.Ordered.int]
  have m : Value.Ordered (.map (Dict.ofList [("b", .null), ("a", .int 1)])) :=
    .map Dict.ordered_empty.insertAll (Dict.all_empty.insertAll fields)
  have ordered : s.Ordered := List.forall_mem_singleton.2 (Dict.all_empty.insert m)
  have literals : (read "m" []).Ordered := by
    constructor
    · rintro _ ⟨⟩
    · exact List.forall_mem_nil _
  obtain ⟨items, yields, ⟨result, text, compiled, ends⟩, runs, -⟩ :=
    renderNodes_loop_ends e files 0 ordered literals "k" body [] e.cache
  have run := runs result text compiled ends ""
  have succeeds : (e.renderNodes files 0 [.loop "k" (read "m" []) body []]
      ⟨s, "", e.cache⟩).1 = .ok () := by
    decide +kernel
  have written : (e.renderNodes files 0 [.loop "k" (read "m" []) body []]
      ⟨s, "", e.cache⟩).2.out = "1trueafalse2truebtrue" := by
    decide +kernel
  rw [run] at succeeds written
  rw [String.empty_append] at run written
  dsimp only at succeeds written
  subst succeeds written
  exact ⟨ordered, literals, items, compiled, yields, ends, run⟩

end Engine

end SlotTemplate
