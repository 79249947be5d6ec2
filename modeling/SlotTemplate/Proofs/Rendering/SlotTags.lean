import Mathlib.Logic.Relation
import SlotTemplate.Component.Stock
import SlotTemplate.Proofs.Derivation.SlotTags
import SlotTemplate.Proofs.Rendering.Caching
import SlotTemplate.Proofs.Rendering.Invocation
import SlotTemplate.Proofs.Rendering.Iteration

/-!
# Slot tags and the variable `slots`

Two things read the slots of an invocation: the tags that stand for their places, and expressions
that look into the variable `slots`. They agree in every scope where that variable holds rendered
slots or nothing that has members.

* `Scope.OffersSlots.slotLookup`: the lookup of a slot is true and prints as the slot is filled;
* `Lockstep.agree_writeOut`: a node renders as it does with its slot tags written out;
* `Engine.renderAll_slotAlike`: templates that are written out alike do the same where they are
  offered slots;
* `Engine.Counterparts.render_eq`: two engines with such templates under one name render alike;
* `Engine.slotTags_writesOut`: a template renders as it does with slot tags of its source written
  out.
-/

namespace SlotTemplate

open Markup Rendering

/-! ## Scopes -/

/-- Rendered slots, or a value without members. -/
def Value.OffersSlots (v : Value) : Prop :=
  (∃ filled, v = .slots filled) ∨ ∀ key, v.get key = .null

/-- Nothing but rendered slots has members under the name `slots`. -/
def Scope.OffersSlots (s : Scope) : Prop := ∀ v, s.get? "slots" = some v → v.OffersSlots

/-- No rendered slots stand under the name `slots`. -/
def Scope.Slotless (s : Scope) : Prop := ∀ filled, s.get? "slots" ≠ some (.slots filled)

theorem Scope.Slotless.filledSlot? {s : Scope} (h : s.Slotless) (name : String) :
    filledSlot? s name = none := by
  unfold Rendering.filledSlot?
  split
  · rename_i filled found
    exact absurd found (h filled)
  · rfl

namespace Scope.OffersSlots

variable {s : Scope}

/-- The lookup of a slot is true where the slot is filled, and it prints the text of the slot. -/
theorem slotLookup (h : s.OffersSlots) (name : String) :
    ((slotLookup name).eval s).isTruthy = (filledSlot? s name).isSome ∧
      ∀ autoescape, ((SlotTemplate.slotLookup name).eval s).render autoescape =
        (filledSlot? s name).getD "" := by
  have value : (SlotTemplate.slotLookup name).eval s =
      ((s.get? "slots").getD .null).get name := rfl
  have blank (v : Value) (none : v = .null) :
      v.isTruthy = false ∧ ∀ autoescape, v.render autoescape = "" := by
    subst none
    refine ⟨rfl, fun autoescape => ?_⟩
    cases autoescape <;> rfl
  rw [value, filledSlot?]
  cases found : s.get? "slots" with
  | none => exact blank _ rfl
  | some v =>
    obtain ⟨filled, rfl⟩ | memberless := h v found
    · have prints (autoescape : Bool) :
          (Value.safe (filled.get name)).render autoescape = filled.get name := by
        cases autoescape <;> rfl
      have truthy : (Value.safe (filled.get name)).isTruthy = filled.isFilled name := rfl
      simp only [Option.getD_some, Value.get, prints, truthy, SlotMap.isFilled]
      by_cases empty : filled.get name = ""
      · simp [empty]
      · simp [empty]
    · have nothing := blank _ (memberless name)
      cases v with
      | slots filled => cases memberless name
      | _ => exact nothing

theorem push_loopFrame (h : s.OffersSlots) {variableName : String} (other : variableName ≠ "slots")
    (index total : Nat) (item : Value) :
    (s.push (loopFrame variableName index total item)).OffersSlots := by
  intro v found
  have frame := iterationFrame_loopFrame variableName index total item
  rw [Scope.get?_push, frame.other "slots" other.symm (by decide), Option.none_or] at found
  exact h v found

end Scope.OffersSlots

/-! ## Nodes -/

namespace Lockstep

variable {L : Lockstep} {autoescape : Bool} {invoke invoke' : Invoke} {s : Scope}

/-- A node whose invocations are alike renders as it does with its slot tags written out. -/
theorem agree_writeOut {n : Node} (hn : n.Everywhere (L.Invoked invoke invoke'))
    (leaves : n.Throughout Node.parts Node.LeavesSlots) (offers : s.OffersSlots)
    (before : String) :
    L.Agree s s before (n.render autoescape invoke) (n.writeOut.render autoescape invoke') Eq := by
  induction hn generalizing s before with
  | @intro node here inside ih =>
    -- the list of nodes below this one that is rendered next
    have below {ns : List Node} (children : ∀ n ∈ ns, n ∈ node.children)
        (parts : ∀ n ∈ ns, n ∈ node.parts) {s : Scope} (offers : s.OffersSlots)
        (before : String) :
        L.Agree s s before (renderAll autoescape invoke ns)
          (renderAll autoescape invoke' (writeOutAll ns)) Eq := by
      rw [writeOutAll_eq_map]
      exact .renderAll_map fun n hn => ih n (children n hn) (leaves.inside n (parts n hn)) offers
        before
    cases node with
    | text t => exact .write t
    | «variable» e =>
      rw [Node.writeOut, Node.render, Node.render, eval_relocate]
      refine .bind (.eval (.refl s _)) ?_
      rintro v _ rfl
      exact .write (v.render autoescape)
    | conditional negated e a b =>
      have first (n : Node) (hn : n ∈ a) : n ∈ a ++ b := List.mem_append_left b hn
      have second (n : Node) (hn : n ∈ b) : n ∈ a ++ b := List.mem_append_right a hn
      rw [Node.writeOut, Node.render, Node.render, eval_relocate]
      refine .bind (.eval (.refl s _)) ?_
      rintro v _ rfl
      split
      · exact below first first offers before
      · exact below second second offers before
    | loop name e a b =>
      have first (n : Node) (hn : n ∈ a) : n ∈ a ++ b := List.mem_append_left b hn
      have second (n : Node) (hn : n ∈ b) : n ∈ a ++ b := List.mem_append_right a hn
      have other : name ≠ "slots" := leaves.here
      rw [Node.writeOut, Node.render, Node.render, eval_relocate]
      refine .bind (.eval (.refl s _)) ?_
      rintro v _ rfl
      dsimp only
      split
      · exact below second second offers before
      · exact .forItems (fun index item =>
          below first first (offers.push_loopFrame other index _ item) before) 0 v.items
    | invocation c tag args slots span =>
      rw [Node.writeOut, (reprints_relocate .erased autoescape).render]
      exact agree_render_of_invoked (.intro here inside) (.refl s _) before
    | marker name content span line =>
      intro p q states
      obtain ⟨truthy, prints⟩ := offers.slotLookup name
      rw [Node.writeOut, Node.render_conditional_run, states.right, truthy, Bool.bne_false]
      cases filled : filledSlot? s name with
      | some text =>
        rw [Node.render_marker_filled (states.left ▸ filled), Option.isSome_some, if_pos rfl,
          renderAll_singleton, Node.render_variable_run, states.right, prints, filled]
        exact Agree.write text p q states
      | none =>
        rw [Node.render_marker_empty (states.left ▸ filled), Option.isSome_none,
          if_neg Bool.false_ne_true]
        exact below (fun _ => id) (fun _ => id) offers before p q states
    | slotOutput name =>
      intro p q states
      rw [Node.writeOut, Node.render_slotOutput_run, Node.render_variable_run, states.left,
        states.right, (offers.slotLookup name).2]
      exact Agree.write _ p q states
    | empty => exact .pure rfl

theorem agree_writeOutAll {ns : List Node}
    (hn : ∀ n ∈ ns, n.Everywhere (L.Invoked invoke invoke'))
    (leaves : ∀ n ∈ ns, n.Throughout Node.parts Node.LeavesSlots) (offers : s.OffersSlots)
    (before : String) :
    L.Agree s s before (renderAll autoescape invoke ns)
      (renderAll autoescape invoke' (writeOutAll ns)) Eq := by
  rw [writeOutAll_eq_map]
  exact .renderAll_map fun n h => agree_writeOut (hn n h) (leaves n h) offers before

end Lockstep

/-! ## Templates -/

namespace Engine

variable {e : Engine} {files : Files}

/-- With an engine, nodes do what they do with their slot tags written out. -/
theorem renderAll_writeOutAll (e : Engine) (files : Files) (levels : Nat) {ns : List Node}
    (leaves : ∀ n ∈ ns, n.Throughout Node.parts Node.LeavesSlots) {p : Pass}
    (offers : p.scope.OffersSlots) :
    let invoke := e.invoke files (e.renderLevels files levels)
    renderAll e.config.autoescape invoke ns p =
      renderAll e.config.autoescape invoke (writeOutAll ns) p := by
  intro invoke
  have invokes := (Lockstep.same_engines e files).invokes (fun _ => trivial) levels
  have invoked : ∀ n ∈ ns, n.Everywhere (Lockstep.same.Invoked invoke invoke) :=
    fun n _ => n.everywhere_of_forall fun _ _ _ _ _ _ _ _ _ => invokes _ trivial _ _
  exact (Lockstep.agree_writeOutAll invoked leaves offers "").run_eq rfl

/-- Templates that are written out alike do the same in a scope that offers slots. -/
theorem renderAll_slotAlike (e : Engine) (files : Files) (levels : Nat) {t t' : Template}
    (alike : t.SlotAlike t') (leaves : t.LeavesSlots) {p : Pass} (offers : p.scope.OffersSlots) :
    let invoke := e.invoke files (e.renderLevels files levels)
    renderAll e.config.autoescape invoke t.nodes p =
      renderAll e.config.autoescape invoke t'.nodes p := by
  intro invoke
  rw [e.renderAll_writeOutAll files levels leaves offers, alike.nodes,
    e.renderAll_writeOutAll files levels (alike.leavesSlots leaves) offers]

end Engine

/-! ## Invocations -/

/-- A component that hands its arguments over offers its slots to its template, unless an argument
or a default takes the name `slots`. -/
theorem Component.HandsOver.offersSlots {c : Component} (handsOver : c.HandsOver)
    (undeclared : c.signature.default? "slots" = none) {filled : SlotMap} {args data : Data}
    (absent : args.get? "slots" = none) (made : c.context filled args = .ok data) :
    (Scope.ofData data).OffersSlots := by
  rw [handsOver.context] at made
  obtain ⟨bound, suits, rfl⟩ := map_eq_ok_iff.1 made
  have unbound : bound.get? "slots" = none := by
    rw [Signature.get?_of_bind suits, absent, undeclared, Option.none_or]
  have kept := Dict.get?_insertAll_of_forall (d := reserved filled)
    (Dict.ne_of_find?_eq_none unbound)
  intro v found
  rw [Scope.get?_ofData, kept, get?_reserved_slots] at found
  cases found
  exact .inl ⟨filled, rfl⟩

/-- If a node invokes a component with a template, the component hands its arguments over, and
neither an argument nor a default takes the name `slots`. -/
def Node.HandsSlots (extension name : String) : Node → Prop
  | .invocation c _ args _ _ => c.templateName extension = name →
    c.HandsOver ∧ c.signature.default? "slots" = none ∧ ∀ a ∈ args, a.name ≠ "slots"
  | _ => True

/-- All invocations of a template hand their slots over. -/
def Template.HandsSlots (extension name : String) (t : Template) : Prop :=
  ∀ n ∈ t.nodes, n.Everywhere (Node.HandsSlots extension name)

/-- An engine with components in play compiles templates that hand their slots over if those do,
where nothing takes the name `slots`. -/
theorem Template.CompiledWith.handsSlots {K : Component → Prop} {t : Template}
    (compiled : t.CompiledWith K)
    (handOver : ∀ c, K c → c.HandsOver ∧ c.signature.default? "slots" = none)
    (spares : t.SparesSlots) (extension name : String) : t.HandsSlots extension name := by
  intro n hn
  refine ((compiled.invokes n hn).and (spares n hn)).mono fun n both => ?_
  obtain ⟨inPlay, absent⟩ := both
  cases n with
  | invocation c tag args slots span =>
    intro _
    obtain ⟨handsOver, undeclared⟩ := handOver c (inPlay c rfl)
    exact ⟨handsOver, undeclared, fun a ha same => absent (List.mem_map.2 ⟨a, ha, same⟩)⟩
  | _ => trivial

/-- What is found under another name is the same template; what is found under the name itself may
be one that is written out alike. -/
structure Template.Counterpart (extension name other : String) (t t' : Template) : Prop where
  hands : t.HandsSlots extension name
  same : t = t' ∨ other = name ∧ t.LeavesSlots ∧ t.SlotAlike t'

/-- Renderings with caches that hold counterparts. -/
def Lockstep.slotTags (extension name : String) : Lockstep :=
  ⟨fun _ => False, fun _ => True, fun cache cache' => ∀ other,
    Option.Rel (Template.Counterpart extension name other) (cache.get? other) (cache'.get? other)⟩

namespace Engine

/-- All templates that an engine provides hand their slots over to the template under a name. -/
def HandsSlots (e : Engine) (files : Files) (name : String) : Prop :=
  ∀ other t, e.Provides files other t → t.HandsSlots e.config.extension name

theorem HandsSlots.addTemplate {e : Engine} {files : Files} {name other source : String}
    (h : e.HandsSlots files name)
    (compiled : ∀ t, e.compileNamed other source = .ok t → t.HandsSlots e.config.extension name) :
    (e.addTemplate other source).HandsSlots files name := by
  rintro another t (found | loaded)
  · refine h another t (.inl ?_)
    have kept : (e.cache.erase other).get? another = some t := found
    rw [Dict.get?_erase] at kept
    split at kept
    · cases kept
    · exact kept
  · by_cases same : other = another
    · subst same
      rw [load_addTemplate] at loaded
      exact compiled t (mapError_eq_ok_iff.1 loaded)
    · rw [load_addTemplate_of_ne _ same] at loaded
      exact h another t (.inr loaded)

/-- Two engines have the same settings and load counterparts. -/
structure Counterparts (e e' : Engine) (files : Files) (name : String) : Prop where
  config : e'.config = e.config
  loads : ∀ other, SameOutcome (Template.Counterpart e.config.extension name other)
    (e.load files other) (e'.load files other)

namespace Counterparts

variable {e e' : Engine} {files : Files} {name other : String} {t t' : Template} {data : Data}

theorem fetch_counterpart (h : e.Counterparts e' files name) {cache cache' : Cache}
    (caches : (Lockstep.slotTags e.config.extension name).caches cache cache') (other : String) :
    SameOutcome (Template.Counterpart e.config.extension name other)
        (e.fetch files other cache).1 (e'.fetch files other cache').1 ∧
      (Lockstep.slotTags e.config.extension name).caches (e.fetch files other cache).2
        (e'.fetch files other cache').2 :=
  fetch_sameOutcome (congrArg EngineConfig.cacheTemplates h.config) h.loads caches other

theorem agree_getTemplate (h : e.Counterparts e' files name) (other : String) (s s' : Scope)
    (before : String) :
    (Lockstep.slotTags e.config.extension name).Agree s s' before (e.getTemplate files other)
      (e'.getTemplate files other) (Template.Counterpart e.config.extension name other) := by
  refine Lockstep.agree_getTemplate_of_outcomes (fun cache cache' caches => ?_) s s' before
  obtain ⟨same, kept⟩ := h.fetch_counterpart caches other
  exact ⟨same, kept, fun _ _ => trivial⟩

/-- At every depth, a template renders alike, and so does one with its slot tags written out where
it is offered slots. -/
theorem agree_renderLevels (h : e.Counterparts e' files name) (levels : Nat)
    (hands : t.HandsSlots e.config.extension name)
    (same : t = t' ∨ (Scope.ofData data).OffersSlots ∧ t.LeavesSlots ∧ t.SlotAlike t')
    (s s' : Scope) (before : String) :
    (Lockstep.slotTags e.config.extension name).Agree s s' before
      (e.renderLevels files levels t data) (e'.renderLevels files levels t' data) Eq := by
  induction levels generalizing t t' data s s' before with
  | zero =>
    have named : t.name = t'.name := by
      obtain rfl | ⟨-, -, alike⟩ := same
      · rfl
      · exact alike.name
    rw [Engine.renderLevels, Engine.renderLevels, h.config, named]
    exact .throw trivial
  | succ levels ih =>
    rw [Engine.renderLevels, Engine.renderLevels]
    have invoked : ∀ n ∈ t.nodes, n.Everywhere
        ((Lockstep.slotTags e.config.extension name).Invoked
          (e.invoke files (e.renderLevels files levels))
          (e'.invoke files (e'.renderLevels files levels))) := by
      refine fun n hn => (hands n hn).mono fun n hands => ?_
      rintro c tag args slots span rfl filled scope s s' before
      refine Lockstep.agree_invoke_of_agree (by rw [h.config]) (fun _ => trivial)
        (h.agree_getTemplate _) ?_ s s' before
      intro t t' data made both
      refine ih both.hands (both.same.imp_right ?_)
      rintro ⟨named, alike⟩
      obtain ⟨handsOver, undeclared, absent⟩ := hands named
      exact ⟨handsOver.offersSlots undeclared (get?_argumentValues_none absent) made, alike⟩
    refine .isolate ?_
    obtain rfl | ⟨offers, leaves, alike⟩ := same
    · rw [h.config]
      exact .renderAll fun n hn =>
        Lockstep.agree_render_of_invoked (invoked n hn) (.refl _ _) ""
    · refine (Lockstep.agree_writeOutAll invoked leaves offers "").congr_right fun p here => ?_
      rw [alike.nodes, ← h.config]
      exact (e'.renderAll_writeOutAll files levels (alike.leavesSlots leaves)
        (here ▸ offers)).symm

theorem renderTemplate_eq (h : e.Counterparts e' files name)
    (caches : (Lockstep.slotTags e.config.extension name).caches e.cache e'.cache)
    (hands : t.HandsSlots e.config.extension name)
    (same : t = t' ∨ (Scope.ofData data).OffersSlots ∧ t.LeavesSlots ∧ t.SlotAlike t') :
    (e.renderTemplate files t data).1 = (e'.renderTemplate files t' data).1 := by
  have agree := h.agree_renderLevels (e.config.maxDepth + 1) hands same .empty .empty ""
  have depth : e.config.maxDepth = e'.config.maxDepth := by rw [h.config]
  exact Lockstep.renderTemplate_eq_of_agree (fun _ => id) depth caches agree

theorem render_eq (h : e.Counterparts e' files name)
    (caches : (Lockstep.slotTags e.config.extension name).caches e.cache e'.cache) (page : String)
    (offers : page = name → (Scope.ofData data).OffersSlots) :
    (e.render files page data).1 = (e'.render files page data).1 := by
  obtain ⟨same, kept⟩ := h.fetch_counterpart caches page
  refine render_eq_of_outcomes same fun t t' _ both => ?_
  have next : ({ e with cache := (e.fetch files page e.cache).2 } : Engine).Counterparts
      { e' with cache := (e'.fetch files page e'.cache).2 } files name := ⟨h.config, h.loads⟩
  exact next.renderTemplate_eq kept both.hands
    (both.same.imp_right fun same => ⟨offers same.1, same.2⟩)

end Counterparts

/-! ## Sources -/

variable {e : Engine} {files : Files} {name source source' : String} {t t' : Template}

/-- A source compiles with any of its slot tags written out. -/
theorem compileNamed_writesOut (written : Relation.ReflTransGen e.WritesOut source source')
    (compiled : e.compileNamed name source = .ok t) :
    ∃ t', e.compileNamed name source' = .ok t' ∧ t.SlotAlike t' := by
  induction written with
  | refl => exact ⟨t, compiled, rfl, rfl⟩
  | tail _ step ih =>
    obtain ⟨u, before, alike⟩ := ih
    obtain ⟨t', after, alike'⟩ := step.compileNamed before
    exact ⟨t', after, alike.trans alike'⟩

theorem counterparts_addTemplate (compiled : e.compileNamed name source = .ok t)
    (compiled' : e.compileNamed name source' = .ok t') (leaves : t.LeavesSlots)
    (alike : t.SlotAlike t') (hands : (e.addTemplate name source).HandsSlots files name) :
    (e.addTemplate name source).Counterparts (e.addTemplate name source') files name ∧
      (Lockstep.slotTags e.config.extension name).caches (e.addTemplate name source).cache
        (e.addTemplate name source').cache := by
  have itself : (e.addTemplate name source).load files name = .ok t := by
    rw [load_addTemplate, compiled]
    rfl
  refine ⟨⟨rfl, sameOutcome_load_addTemplate compiled compiled'
    ⟨hands name t (.inr itself), .inr ⟨rfl, leaves, alike⟩⟩
    fun other u loaded => ⟨hands other u (.inr loaded), .inl rfl⟩⟩, fun other => ?_⟩
  have same : (e.addTemplate name source').cache = (e.addTemplate name source).cache := rfl
  rw [same]
  cases found : (e.addTemplate name source).cache.get? other with
  | none => exact .none
  | some u => exact .some ⟨hands other u (.inl found), .inl rfl⟩

/-- The tags that read slots agree with the variable `slots`. With any slot tags of its source
written out, outside the bodies of invocations, a template compiles to one that does the same in the
scope of every component that hands its slots over; so all templates by name and all sources render
to the same text or fail with the same error, with the template in either form under its name. And
where no slots stand under the name `slots`, the place of a slot renders what it contains, and one
without content renders nothing. -/
theorem slotTags_writesOut (e : Engine) (files : Files)
    (written : Relation.ReflTransGen e.WritesOut source source')
    (compiled : e.compileNamed name source = .ok t) (leaves : t.LeavesSlots) :
    (∃ t', e.compileNamed name source' = .ok t' ∧
      ∀ (c : Component) filled args data, c.HandsOver → c.signature.default? "slots" = none →
        args.get? "slots" = none → c.context filled args = .ok data → ∀ depth out cache,
          e.renderNodes files depth t'.nodes ⟨.ofData data, out, cache⟩ =
            e.renderNodes files depth t.nodes ⟨.ofData data, out, cache⟩) ∧
    (let before := e.addTemplate name source
      let after := e.addTemplate name source'
      before.HandsSlots files name →
        (∀ page data, (page = name → (Scope.ofData data).OffersSlots) →
          (after.render files page data).1 = (before.render files page data).1) ∧
        ∀ page u, e.compileNamed unnamed page = .ok u → u.HandsSlots e.config.extension name →
          ∀ data, (after.renderSource files page data).1 =
            (before.renderSource files page data).1) ∧
    ∀ p : Pass, p.scope.Slotless → ∀ depth slot content span line,
      e.renderNodes files depth [.marker slot content span line] p =
        e.renderNodes files depth content p ∧
      e.renderNodes files depth [.slotOutput slot] p = (.ok (), p) := by
  obtain ⟨t', compiled', alike⟩ := compileNamed_writesOut written compiled
  refine ⟨⟨t', compiled', ?_⟩, ?_, ?_⟩
  · intro c filled args data handsOver undeclared absent made depth out cache
    exact (e.renderAll_slotAlike files _ alike leaves
      (handsOver.offersSlots undeclared absent made)).symm
  · intro before after hands
    obtain ⟨same, caches⟩ := counterparts_addTemplate compiled compiled' leaves alike hands
    refine ⟨fun page data offers => (same.render_eq caches page offers).symm, ?_⟩
    intro page u read handsPage data
    have first : before.compileNamed unnamed page = .ok u := read
    have second : after.compileNamed unnamed page = .ok u := read
    rw [renderSource, renderSource, first, second]
    exact (same.renderTemplate_eq caches handsPage (.inl rfl)).symm
  · intro p slotless depth slot content span line
    have empty := slotless.filledSlot? slot
    constructor
    · rw [renderNodes, renderAll_singleton, Node.render_marker_empty empty]
      rfl
    · rw [renderNodes, renderAll_singleton, Node.render_slotOutput_run, empty, Option.getD_none,
        write_run, String.append_empty]

theorem slotTags_writesOut_nested :
    let card := Component.named "card"
    let e := Engine.default.addBuiltins (Library.empty.component card)
    let files := Files.inDirectory []
    let name := "components/card.html"
    let source := "{% for x in xs %}{% slot a %}{% slot/ b %}{% /slot %}{% endfor %}"
    let source' := "{% for x in xs %}{% if slots.a %}{{ slots.a }}" ++
      "{% else %}{{ slots.b }}{% endif %}{% endfor %}"
    let page := "{% card xs=xs %}{% slot b %}<{% /slot %}{% /card %}"
    Relation.ReflTransGen e.WritesOut source source' ∧
      (∀ data, ((e.addTemplate name source').renderSource files page data).1 =
        ((e.addTemplate name source).renderSource files page data).1) ∧
      ((e.addTemplate name source).renderSource files page
        (Dict.ofList [("xs", .string "12")])).1.toOption = some "<<" := by
  intro card e files name source source' page
  have regular : card.Regular := ⟨rfl, rfl, rfl, by decide, by rintro _ ⟨⟩, by decide⟩
  have standard : e.builtins.Standard :=
    Library.standard_builtin.merge (Library.additional_empty.component regular)
  have reads : e.ReadsConditions :=
    ⟨⟨standard.conditional, List.forall_mem_nil _⟩,
      ⟨Option.isNone_iff_eq_none.1 (by decide +kernel), List.forall_mem_nil _⟩⟩
  let lexeme (tag : Tag) : Lexeme := ⟨.block tag, tag.span, 1⟩
  let each : Tag := ⟨"for x in xs", 3, ⟨0, 17⟩, 1⟩
  let outer : Tag := ⟨"slot a", 20, ⟨17, 29⟩, 1⟩
  let inner : Tag := ⟨"slot/ b", 32, ⟨29, 42⟩, 1⟩
  let shown : Lexeme := ⟨.variable "slots.b" 32, ⟨29, 42⟩, 1⟩
  let ends : Lexeme := lexeme ⟨"/slot", 45, ⟨42, 53⟩, 1⟩
  let rest : List Lexeme := [lexeme ⟨"endfor", 56, ⟨53, 65⟩, 1⟩]
  have opens {tag : Tag} {awaits : List String} {name : String} {b : Binding}
      (named : tag.name = name) (free : name ∉ awaits)
      (bound : e.builtins.binding? name = some b) :
      (⟨lexeme tag, tag, b⟩ : Head).Opens awaits e.builtins.tags := by
    subst named
    exact ⟨rfl, free, bound⟩
  have loop : (⟨lexeme each, each, .loop⟩ : Head).Opens [] e.builtins.tags :=
    opens (by decide +kernel) (by decide) standard.loop
  have place : (⟨lexeme outer, outer, .slot⟩ : Head).Opens ["empty", "endfor"] e.builtins.tags :=
    opens (by decide +kernel) (by decide) standard.slot
  have alone : (⟨lexeme inner, inner, .slotOutput⟩ : Head).Opens ["/slot"] e.builtins.tags :=
    opens (by decide +kernel) (by decide) standard.slotOutput
  have outside : Arrives e.libraries e.builtins.tags [] [] [] e.builtins.tags := .start
  have inLoop := outside.opens loop rfl (by decide +kernel)
  have inPlace := inLoop.opens place rfl (by decide +kernel)
  -- the place inside the other one is written out first, which moves nothing behind it
  let between := replace source (lexeme inner).span (slotVariable "b")
  have first : e.WritesOut source between := by
    have named : inner.slotName = .ok "b" := by decide +kernel
    have stands : tokenize source =
        [lexeme each, lexeme outer] ++ lexeme inner :: ends :: rest := by decide +kernel
    exact .output inPlace (by simp) alone named (by decide) stands
  have second : e.WritesOut between source' := by
    have named : outer.slotName = .ok "a" := by decide +kernel
    obtain ⟨answer, valid⟩ : ∃ answer, Expr.ofVariable "slots.b" 32 1 = .ok answer :=
      exists_eq_ok (by decide +kernel)
    have content : Derives e.libraries ["/slot"] e.builtins.tags (.output shown .nil)
        [.variable answer] e.builtins.tags := .output rfl valid .nil
    obtain ⟨conditions, inside⟩ := reads.reads inLoop content
    have closes : ends.Named "/slot" := ⟨_, rfl, by decide +kernel⟩
    have stands : tokenize between =
        [lexeme each] ++ lexeme outer :: ([shown] ++ ends :: rest) := by decide +kernel
    have text : replace (replace between ends.span (Tag.written "endif" "")) (lexeme outer).span
        (slotCondition "a" ++ slotVariable "a" ++ Tag.written "else" "") = source' := by
      decide +kernel
    rw [← text]
    exact .marker inLoop (by simp) place named (by decide) conditions inside closes stands
  have written : Relation.ReflTransGen e.WritesOut source source' := .tail (.single first) second
  obtain ⟨t, compiled⟩ : ∃ t, e.compileNamed name source = .ok t := exists_eq_ok (by decide +kernel)
  obtain ⟨u, read⟩ : ∃ u, e.compileNamed unnamed page = .ok u := exists_eq_ok (by decide +kernel)
  have spares : ∀ t, e.compileNamed name source = .ok t → t.SparesSlots := by decide +kernel
  have sparesPage : ∀ t, e.compileNamed unnamed page = .ok t → t.SparesSlots := by decide +kernel
  have components : e.AllComponents (· = card) :=
    (Engine.default_components _).addBuiltins (Library.component_all Dict.all_empty rfl)
  have handOver : ∀ c, c = card → c.HandsOver ∧ c.signature.default? "slots" = none := by
    rintro _ rfl
    exact ⟨fun _ _ => rfl, rfl⟩
  have handsSlots {called text : String} {t : Template}
      (compiled : e.compileNamed called text = .ok t) (spares : t.SparesSlots) :
      t.HandsSlots e.config.extension name :=
    Template.CompiledWith.handsSlots ⟨e, called, text, components, compiled⟩ handOver spares _ _
  have bare : e.HandsSlots files name := by rintro other t (⟨⟨⟩⟩ | ⟨⟨⟩⟩)
  have hands : (e.addTemplate name source).HandsSlots files name :=
    bare.addTemplate fun t compiled => handsSlots compiled (spares t compiled)
  obtain ⟨-, below, -⟩ :=
    slotTags_writesOut e files written compiled (spares t compiled).leavesSlots
  exact ⟨written, (below hands).2 page u read (handsSlots read (sparesPage u read)),
    by decide +kernel⟩

end Engine

end SlotTemplate
