import SlotTemplate.Proofs.Components
import SlotTemplate.Proofs.Rendering.Depth
import SlotTemplate.Proofs.Signature
import SlotTemplate.Proofs.SlotMap

/-!
# What a component's template sees

An invocation goes through stages, and the first one that fails ends it: the slots, the arguments,
the template, the depth. What comes last is the template, in a scope of one frame. There an argument
goes before a default and both go before the texts of the slots.

* `Component.Sees`: what a component's template sees, and `Component.sees_of_bind`: it does;
* `Engine.InvocationEnds`: the ways in which an invocation ends, stage by stage;
* `Engine.renderNodes_invocation_ends`: an invocation ends in these ways alone.
-/

namespace SlotTemplate

open Rendering

/-! ## The frame -/

/-- The values of arguments in a scope; of several with one name the last one counts. -/
def argumentValues (args : List Argument) (scope : Scope) : Data :=
  Dict.ofList (args.map fun a => (a.name, a.value.eval scope))

section

variable {args : List Argument} {scope : Scope}

theorem get?_argumentValues {name : String} {a : Argument} (last : IsLast (·.name = name) args a) :
    (argumentValues args scope).get? name = some (a.value.eval scope) := by
  obtain ⟨-, -, -, rfl, -⟩ := id last
  exact Dict.get?_ofList_eq_some_iff.2 (isLast_map.2 ⟨a, rfl, last⟩)

theorem get?_argumentValues_none {name : String} (absent : ∀ a ∈ args, a.name ≠ name) :
    (argumentValues args scope).get? name = none :=
  Dict.get?_ofList_eq_none_iff.2 (List.forall_mem_map.2 absent)

end

namespace Component

/-- What a component's template sees in its frame: the last argument that is given under a name; the
declared default, where no argument is given; the text of the default slot under `slot` and all
texts under `slots`, unless an argument or a default takes the name; and nothing else. -/
structure Sees (c : Component) (args : List Argument) (scope : Scope)
    (texts : List (String × String)) (frame : Data) : Prop where
  argument : ∀ name a, IsLast (·.name = name) args a → frame.get? name = some (a.value.eval scope)
  default : ∀ name v, (∀ a ∈ args, a.name ≠ name) → c.signature.default? name = some v →
    frame.get? name = some v
  slot : (∀ a ∈ args, a.name ≠ defaultSlot) → c.signature.default? defaultSlot = none →
    frame.get? defaultSlot = some (.safe ((SlotMap.ofList texts).get defaultSlot))
  slots : (∀ a ∈ args, a.name ≠ "slots") → c.signature.default? "slots" = none →
    frame.get? "slots" = some (.slots (SlotMap.ofList texts))
  other : ∀ name, (∀ a ∈ args, a.name ≠ name) → c.signature.default? name = none →
    name ≠ defaultSlot → name ≠ "slots" → frame.get? name = none

variable {c : Component} {args : List Argument} {scope : Scope} {texts : List (String × String)}

/-- The bound arguments over the variables that stand for the slots are what the template sees. -/
theorem sees_of_bind {bound : Data}
    (suits : c.signature.bind (argumentValues args scope) = .ok bound) :
    c.Sees args scope texts ((reserved (SlotMap.ofList texts)).insertAll bound.entries) := by
  have ordered := Signature.ordered_of_bind suits Dict.ordered_empty.insertAll
  have found (name : String) := Signature.get?_of_bind suits name
  constructor
  · intro name a last
    rw [ordered.get?_insertAll, found, get?_argumentValues last, Option.some_or, Option.some_or]
  · intro name v absent declared
    rw [ordered.get?_insertAll, found, get?_argumentValues_none absent, declared, Option.none_or,
      Option.some_or]
  · intro absent undeclared
    rw [ordered.get?_insertAll, found, get?_argumentValues_none absent, undeclared, Option.none_or,
      Option.none_or, get?_reserved_slot]
  · intro absent undeclared
    rw [ordered.get?_insertAll, found, get?_argumentValues_none absent, undeclared, Option.none_or,
      Option.none_or, get?_reserved_slots]
  · intro name absent undeclared slot slots
    rw [ordered.get?_insertAll, found, get?_argumentValues_none absent, undeclared, Option.none_or,
      Option.none_or, get?_reserved_other _ slot slots]

/-- A template sees one value at most under a name. -/
theorem Sees.get?_eq {frame frame' : Data} (h : c.Sees args scope texts frame)
    (h' : c.Sees args scope texts frame') (name : String) : frame.get? name = frame'.get? name := by
  by_cases given : ∃ a ∈ args, a.name = name
  · obtain ⟨a, last⟩ := exists_isLast given
    rw [h.argument name a last, h'.argument name a last]
  have absent : ∀ a ∈ args, a.name ≠ name := fun a ha same => given ⟨a, ha, same⟩
  cases declared : c.signature.default? name with
  | some v => rw [h.default name v absent declared, h'.default name v absent declared]
  | none =>
    by_cases slot : name = defaultSlot
    · subst slot
      rw [h.slot absent declared, h'.slot absent declared]
    by_cases slots : name = "slots"
    · subst slots
      rw [h.slots absent declared, h'.slots absent declared]
    rw [h.other name absent declared slot slots, h'.other name absent declared slot slots]

end Component

/-! ## Stages -/

namespace Engine

section

variable (e : Engine) (files : Files) (depth : Nat)

/-- Slots that are rendered in order in a scope, each with its text under its name. -/
inductive Fills (scope : Scope) : List Slot → List (String × String) → Cache → Cache → Prop where
  | nil (cache : Cache) : Fills scope [] [] cache cache
  | cons {slot : Slot} {slots : List Slot} {text : String} {texts : List (String × String)}
      {cache between compiled : Cache}
      (here : e.renderNodes files depth slot.content ⟨scope, "", cache⟩ =
        (.ok (), ⟨scope, text, between⟩))
      (rest : Fills scope slots texts between compiled) :
      Fills scope (slot :: slots) ((slot.name, text) :: texts) cache compiled

/-- The ways in which an invocation ends, with the text that it comes to or with an error: at the
first slot that fails, or, with all slots filled, at arguments that do not suit; or, with arguments
that do, without a template or with one that does not compile; or, with a template, at the limit; or
else as the template ends in a scope of its one frame. -/
inductive InvocationEnds (c : Component) (args : List Argument) (slots : List Slot) (scope : Scope)
    (cache : Cache) : Except RenderError String → Cache → Prop where
  | slot {before after : List Slot} {slot : Slot} {texts : List (String × String)} {text : String}
      {err : RenderError} {between compiled : Cache} (split : slots = before ++ slot :: after)
      (fills : e.Fills files depth scope before texts cache between)
      (fails : e.renderNodes files depth slot.content ⟨scope, "", between⟩ =
        (.error err, ⟨scope, text, compiled⟩)) :
      InvocationEnds c args slots scope cache (.error err) compiled
  | arguments {texts : List (String × String)} {cause : BindingError} {compiled : Cache}
      (fills : e.Fills files depth scope slots texts cache compiled)
      (rejected : c.signature.bind (argumentValues args scope) = .error cause) :
      InvocationEnds c args slots scope cache (.error (.validation c.name cause)) compiled
  | missing {texts : List (String × String)} {bound : Data} {err : NotFound}
      {filled compiled : Cache} (fills : e.Fills files depth scope slots texts cache filled)
      (suits : c.signature.bind (argumentValues args scope) = .ok bound)
      (fails : e.fetch files (c.templateName e.config.extension) filled =
        (.error (.notFound err), compiled)) :
      InvocationEnds c args slots scope cache (.error (.notFound err)) compiled
  | broken {texts : List (String × String)} {bound : Data} {err : CompileError}
      {filled compiled : Cache} (fills : e.Fills files depth scope slots texts cache filled)
      (suits : c.signature.bind (argumentValues args scope) = .ok bound)
      (fails : e.fetch files (c.templateName e.config.extension) filled =
        (.error (.compile (c.templateName e.config.extension) err), compiled)) :
      InvocationEnds c args slots scope cache
        (.error (.compile (c.templateName e.config.extension) err)) compiled
  | deep {texts : List (String × String)} {bound : Data} {t : Template} {filled compiled : Cache}
      (fills : e.Fills files depth scope slots texts cache filled)
      (suits : c.signature.bind (argumentValues args scope) = .ok bound)
      (found : e.fetch files (c.templateName e.config.extension) filled = (.ok t, compiled))
      (limit : e.config.maxDepth < depth + 1) :
      InvocationEnds c args slots scope cache
        (.error (.recursionLimit t.name e.config.maxDepth)) compiled
  | template {texts : List (String × String)} {bound frame : Data} {t : Template} {text : String}
      {result : Except RenderError Unit} {filled between compiled : Cache}
      (fills : e.Fills files depth scope slots texts cache filled)
      (suits : c.signature.bind (argumentValues args scope) = .ok bound)
      (found : e.fetch files (c.templateName e.config.extension) filled = (.ok t, between))
      (within : depth + 1 ≤ e.config.maxDepth) (sees : c.Sees args scope texts frame)
      (renders : e.renderNodes files (depth + 1) t.nodes ⟨.ofData frame, "", between⟩ =
        (result, ⟨.ofData frame, text, compiled⟩)) :
      InvocationEnds c args slots scope cache (result.map fun _ => text) compiled

end

variable {e : Engine} {files : Files} {depth : Nat} {scope : Scope} {cache compiled : Cache}

/-! ### Slots -/

theorem capture_run {body : Rendering Unit} {result : Except RenderError Unit} {text : String}
    (run : body ⟨scope, "", cache⟩ = (result, ⟨scope, text, compiled⟩)) (out : String) :
    capture body ⟨scope, out, cache⟩ = (result.map fun _ => text, ⟨scope, out, compiled⟩) := by
  rw [capture, run]

/-- Slots that are filled in order leave the scope and the output as they were. -/
theorem Fills.run {slots : List Slot} {texts : List (String × String)}
    (h : e.Fills files depth scope slots texts cache compiled) (filled : SlotMap) (out : String) :
    (slots.foldlM (fun filled slot => do
      let text ← capture (e.renderNodes files depth slot.content)
      return filled.insert slot.name text) filled : Rendering SlotMap) ⟨scope, out, cache⟩ =
        (.ok (texts.foldl (fun s p => s.insert p.1 p.2) filled), ⟨scope, out, compiled⟩) := by
  induction h generalizing filled with
  | nil cache => rfl
  | @cons slot slots text texts cache between compiled here rest ih =>
    have captured := capture_run here out
    simp only [List.foldlM_cons, bind_assoc, pure_bind]
    rw [bind_run, captured]
    exact ih (filled.insert slot.name text)

theorem Fills.fillSlots {slots : List Slot} {texts : List (String × String)}
    (h : e.Fills files depth scope slots texts cache compiled) (out : String) :
    e.fillSlots files depth slots ⟨scope, out, cache⟩ =
      (.ok (SlotMap.ofList texts), ⟨scope, out, compiled⟩) :=
  h.run SlotMap.empty out

/-- The first slot that fails ends the filling. -/
theorem Fills.fillSlots_error {before after : List Slot} {slot : Slot}
    {texts : List (String × String)} {text : String} {err : RenderError} {between : Cache}
    (h : e.Fills files depth scope before texts cache between)
    (fails : e.renderNodes files depth slot.content ⟨scope, "", between⟩ =
      (.error err, ⟨scope, text, compiled⟩)) (out : String) :
    e.fillSlots files depth (before ++ slot :: after) ⟨scope, out, cache⟩ =
      (.error err, ⟨scope, out, compiled⟩) := by
  have captured := capture_run fails out
  rw [Engine.fillSlots, List.foldlM_append, bind_run, h.run SlotMap.empty out]
  simp only [List.foldlM_cons, bind_assoc, pure_bind]
  rw [bind_run, captured]
  rfl

/-- Slots are all filled, or there is a first one that fails. -/
theorem fills_or_fails (e : Engine) (files : Files) (depth : Nat) (scope : Scope)
    (slots : List Slot) (cache : Cache) :
    (∃ texts compiled, e.Fills files depth scope slots texts cache compiled) ∨
      ∃ before slot after texts between text err compiled, slots = before ++ slot :: after ∧
        e.Fills files depth scope before texts cache between ∧
        e.renderNodes files depth slot.content ⟨scope, "", between⟩ =
          (.error err, ⟨scope, text, compiled⟩) := by
  induction slots generalizing cache with
  | nil => exact .inl ⟨[], cache, .nil cache⟩
  | cons slot slots ih =>
    obtain ⟨result, text, between, run⟩ := exists_renderNodes e files depth slot.content scope cache
    cases result with
    | error err =>
      exact .inr ⟨[], slot, slots, [], cache, text, err, between, rfl, .nil cache, run⟩
    | ok =>
      obtain ⟨texts, compiled, rest⟩ |
        ⟨before, failing, after, texts, last, text', err, compiled, rfl, fills, fails⟩ := ih between
      · exact .inl ⟨_, compiled, .cons run rest⟩
      · exact .inr ⟨slot :: before, failing, after, _, last, text', err, compiled, rfl,
          .cons run fills, fails⟩

/-! ### Arguments, template and depth -/

/-- What an invocation does once its slots are filled. -/
theorem invocation_run {c : Component} {args : List Argument} {slots : List Slot}
    {texts : List (String × String)}
    (fills : e.Fills files depth scope slots texts cache compiled) (tag : String) (span : Span)
    (out : String) :
    e.renderNodes files depth [.invocation c tag args slots span] ⟨scope, out, cache⟩ =
      e.invoke files (e.renderNested files depth) c (SlotMap.ofList texts)
        (argumentValues args scope) ⟨scope, out, compiled⟩ := by
  rw [renderNodes_invocation, bind_run, fills.fillSlots out]
  rfl

theorem invoke_rejected {c : Component} (handsOver : c.HandsOver) {args : Data}
    {cause : BindingError} (rejected : c.signature.bind args = .error cause)
    (nested : Template → Data → Rendering String) (filled : SlotMap) (p : Pass) :
    e.invoke files nested c filled args p = (.error (.validation c.name cause), p) := by
  rw [invoke, handsOver.context, rejected]
  rfl

/-- What comes after the arguments. -/
theorem invoke_suited {c : Component} (handsOver : c.HandsOver) {args bound : Data}
    (suits : c.signature.bind args = .ok bound) (nested : Template → Data → Rendering String)
    (filled : SlotMap) :
    e.invoke files nested c filled args = (do
      let t ← e.getTemplate files (c.templateName e.config.extension)
      write (← nested t ((Component.reserved filled).insertAll bound.entries))) := by
  rw [invoke, handsOver.context, suits]
  rfl

theorem getTemplate_run {name : String} {result : Except RenderError Template}
    (fetched : e.fetch files name cache = (result, compiled)) (out : String) :
    e.getTemplate files name ⟨scope, out, cache⟩ = (result, ⟨scope, out, compiled⟩) := by
  rw [getTemplate, fetched]

/-- A template of a component is missing or broken, if it cannot be had. -/
theorem fetch_error {name : String} {err : RenderError}
    (failure : e.fetch files name cache = (.error err, compiled)) :
    (∃ cause, err = .notFound cause) ∨ ∃ cause, err = .compile name cause := by
  have loads := load_of_fetch_error (congrArg Prod.fst failure)
  unfold load at loads
  split at loads
  · cases loads
    exact .inl ⟨_, rfl⟩
  · obtain ⟨cause, -, rfl⟩ := mapError_eq_error_iff.1 loads
    exact .inr ⟨cause, rfl⟩

/-! ### Invocations -/

variable {c : Component} {args : List Argument} {slots : List Slot}

/-- Once its arguments suit, an invocation ends as the fetching of its template does. -/
theorem invocation_run_error (handsOver : c.HandsOver) {texts : List (String × String)}
    {bound : Data} {err : RenderError} {filled : Cache}
    (fills : e.Fills files depth scope slots texts cache filled)
    (suits : c.signature.bind (argumentValues args scope) = .ok bound)
    (fails : e.fetch files (c.templateName e.config.extension) filled = (.error err, compiled))
    (tag : String) (span : Span) (out : String) :
    e.renderNodes files depth [.invocation c tag args slots span] ⟨scope, out, cache⟩ =
      (.error err, ⟨scope, out, compiled⟩) := by
  rw [invocation_run fills, invoke_suited handsOver suits, bind_run, getTemplate_run fails]

/-- With a template, an invocation renders it one level deeper. -/
theorem invocation_run_template (handsOver : c.HandsOver) {texts : List (String × String)}
    {bound : Data} {t : Template} {filled : Cache}
    (fills : e.Fills files depth scope slots texts cache filled)
    (suits : c.signature.bind (argumentValues args scope) = .ok bound)
    (found : e.fetch files (c.templateName e.config.extension) filled = (.ok t, compiled))
    (tag : String) (span : Span) (out : String) :
    e.renderNodes files depth [.invocation c tag args slots span] ⟨scope, out, cache⟩ =
      (do write (← e.renderNested files depth t
        ((Component.reserved (SlotMap.ofList texts)).insertAll bound.entries)))
        ⟨scope, out, compiled⟩ := by
  rw [invocation_run fills, invoke_suited handsOver suits, bind_run, getTemplate_run found]

/-- How an invocation leaves the output: with its text behind it or, if it fails, as it was. -/
def ended (scope : Scope) (out : String) (compiled : Cache) :
    Except RenderError String → Except RenderError Unit × Pass
  | .ok text => (.ok (), ⟨scope, out ++ text, compiled⟩)
  | .error err => (.error err, ⟨scope, out, compiled⟩)

/-- An invocation that ends in one of the ways does so in its rendering. -/
theorem InvocationEnds.run (handsOver : c.HandsOver) {result : Except RenderError String}
    (h : e.InvocationEnds files depth c args slots scope cache result compiled) (tag : String)
    (span : Span) (out : String) :
    e.renderNodes files depth [.invocation c tag args slots span] ⟨scope, out, cache⟩ =
      ended scope out compiled result := by
  cases h with
  | slot split fills fails =>
    subst split
    rw [renderNodes_invocation, bind_run, fills.fillSlots_error fails]
    rfl
  | arguments fills rejected =>
    rw [invocation_run fills, invoke_rejected handsOver rejected]
    rfl
  | missing fills suits fails | broken fills suits fails =>
    exact invocation_run_error handsOver fills suits fails tag span out
  | deep fills suits found limit =>
    rw [invocation_run_template handsOver fills suits found, renderNested, if_pos limit]
    rfl
  | template fills suits found within sees renders =>
    rename_i texts bound frame t text result filled between
    have same := sees.get?_eq (Component.sees_of_bind suits)
    have alike (name : String) := (Scope.get?_ofData frame name).trans (same name)
    have run := renderNodes_run_of_same
      (fun name => (alike name).trans (Scope.get?_ofData _ name).symm) renders ""
    rw [String.empty_append] at run
    rw [invocation_run_template handsOver fills suits found, renderNested,
      if_neg (Nat.not_lt.2 within), bind_run, isolate, run]
    cases result <;> rfl

/-- Every invocation ends in one of the ways. -/
theorem exists_invocationEnds (e : Engine) (files : Files) (depth : Nat) (c : Component)
    (args : List Argument) (slots : List Slot) (scope : Scope) (cache : Cache) :
    ∃ result compiled, e.InvocationEnds files depth c args slots scope cache result compiled := by
  obtain ⟨texts, filled, fills⟩ |
    ⟨before, slot, after, texts, between, text, err, compiled, split, fills, fails⟩ :=
    fills_or_fails e files depth scope slots cache
  case inr => exact ⟨.error err, compiled, .slot split fills fails⟩
  cases suits : c.signature.bind (argumentValues args scope) with
  | error cause => exact ⟨_, filled, .arguments fills suits⟩
  | ok bound =>
    rcases fetched : e.fetch files (c.templateName e.config.extension) filled with
      ⟨err | t, between⟩
    · obtain ⟨cause, rfl⟩ | ⟨cause, rfl⟩ := fetch_error fetched
      · exact ⟨_, between, .missing fills suits fetched⟩
      · exact ⟨_, between, .broken fills suits fetched⟩
    by_cases limit : e.config.maxDepth < depth + 1
    · exact ⟨_, between, .deep fills suits fetched limit⟩
    obtain ⟨result, text, compiled, renders⟩ :=
      exists_renderNodes e files (depth + 1) t.nodes (.ofData _) between
    exact ⟨_, compiled, .template fills suits fetched (Nat.not_lt.1 limit)
      (Component.sees_of_bind suits) renders⟩

/-- An invocation of a component that hands its arguments over goes through its stages in order: it
renders its slots in the scope around it and ends at the first one that fails; then it binds its
arguments and ends if they do not suit; then it fetches the template and ends if there is none or it
does not compile; then it checks the depth; and then it renders the template in a scope of one
frame, where an argument is seen before a default and both before the texts of the slots. -/
theorem renderNodes_invocation_ends (e : Engine) (files : Files) (depth : Nat) {c : Component}
    (handsOver : c.HandsOver) (tag : String) (args : List Argument) (slots : List Slot)
    (span : Span) (scope : Scope) (out : String) (cache : Cache) :
    (∀ texts, (SlotMap.ofList texts).Holds texts) ∧
    (∃ result compiled, e.InvocationEnds files depth c args slots scope cache result compiled) ∧
    ∀ result compiled, e.InvocationEnds files depth c args slots scope cache result compiled →
      e.renderNodes files depth [.invocation c tag args slots span] ⟨scope, out, cache⟩ =
        ended scope out compiled result :=
  ⟨SlotMap.holds_ofList, exists_invocationEnds e files depth c args slots scope cache,
    fun _ _ ends => ends.run handsOver tag span out⟩

theorem renderNodes_invocation_ends_reserved :
    let card := (Component.named "card").withSignature
      ((Signature.strict.required "slot").optional "slots" (.int 7))
    let e := (Engine.default.addBuiltins (Library.empty.component card)).addTemplate
      "components/card.html" "{{ slot }}{{ slots }}{{ x }}"
    let files := Files.inDirectory []
    let scope := Scope.ofData (Dict.ofList [("x", .string "a")])
    let argument : Argument := ⟨"slot", ⟨.lookup "x" [], [], ⟨0, 0⟩⟩, ⟨0, 0⟩⟩
    let content : List Node := [.text "b"]
    let page (args : List Argument) : List Node :=
      [.invocation card "card" args [⟨defaultSlot, content⟩] ⟨0, 0⟩]
    let ends (args : List Argument) (result : Except RenderError String) : Prop :=
      ∃ compiled, e.InvocationEnds files 0 card args [⟨defaultSlot, content⟩] scope e.cache result
        compiled ∧
          e.renderNodes files 0 (page args) ⟨scope, "", e.cache⟩ = ended scope "" compiled result
    card.HandsOver ∧ ends [argument] (.ok "a7") ∧
      ends [] (.error (.validation "card" (.missing "slot"))) := by
  intro card e files scope argument content page ends
  have handsOver : card.HandsOver := fun _ _ => rfl
  have claim (args : List Argument) := renderNodes_invocation_ends e files 0 handsOver "card" args
    [⟨defaultSlot, content⟩] ⟨0, 0⟩ scope "" e.cache
  refine ⟨handsOver, ?_, ?_⟩
  · have succeeds : (e.renderNodes files 0 (page [argument]) ⟨scope, "", e.cache⟩).1 = .ok () := by
      decide +kernel
    have written : (e.renderNodes files 0 (page [argument]) ⟨scope, "", e.cache⟩).2.out = "a7" := by
      decide +kernel
    obtain ⟨-, ⟨result, compiled, stages⟩, runs⟩ := claim [argument]
    have run : e.renderNodes files 0 (page [argument]) ⟨scope, "", e.cache⟩ =
      ended scope "" compiled result := runs result compiled stages
    rw [run] at succeeds written
    cases result with
    | ok text =>
      obtain rfl : text = "a7" := (String.empty_append).symm.trans written
      exact ⟨compiled, stages, run⟩
    | error err => cases succeeds
  · have fails : (e.renderNodes files 0 (page []) ⟨scope, "", e.cache⟩).1 =
        .error (.validation "card" (.missing "slot")) := by
      decide +kernel
    obtain ⟨-, ⟨result, compiled, stages⟩, runs⟩ := claim []
    have run : e.renderNodes files 0 (page []) ⟨scope, "", e.cache⟩ =
      ended scope "" compiled result := runs result compiled stages
    rw [run] at fails
    cases result with
    | ok text => cases fails
    | error err =>
      cases fails
      exact ⟨compiled, stages, run⟩

end Engine

end SlotTemplate
