import SlotTemplate.Manifest
import SlotTemplate.Proofs.Dict

/-!
# Arguments and their declarations

A signature is declared clause by clause, and a name that is declared again counts as it was
declared last. Arguments are bound to it in stages: none may be undeclared, unless extra ones are
accepted; then no required one may be missing; and then the defaults are filled in.

* `Signature.params_build`, `Signature.extra_build`: what clauses declare;
* `Declaration.signature_eq`, `Declaration.params_signature`: what a manifest declares;
* `Signature.get?_of_bind`: what stands under each name once arguments are bound;
* `Signature.BindEnds`: the ways in which binding ends, stage by stage;
* `Signature.bind_exact`: binding ends in these ways, and how it fails hangs on the names alone.
-/

namespace SlotTemplate

/-! ## Declarations -/

/-- A step in the declaration of a signature. -/
inductive Clause where
  | required (name : String)
  | optional (name : String) (default : Value)
  | extra (allowed : Bool)

namespace Clause

def apply (s : Signature) : Clause → Signature
  | .required name => s.required name
  | .optional name default => s.optional name default
  | .extra allowed => s.withExtra allowed

/-- The parameter that a clause declares. -/
def param? : Clause → Option Param
  | .required name => some ⟨name, none⟩
  | .optional name default => some ⟨name, some default⟩
  | .extra _ => none

/-- What a clause says about undeclared arguments. -/
def extra? : Clause → Option Bool
  | .extra allowed => some allowed
  | _ => none

end Clause

namespace Param

/-- The parameters that are not declared again later on. -/
def lasting : List Param → List Param
  | [] => []
  | p :: ps => if ps.any (·.name == p.name) then lasting ps else p :: lasting ps

variable {p : Param} {ps qs : List Param}

theorem mem_of_mem_lasting (h : p ∈ lasting ps) : p ∈ ps := by
  induction ps with
  | nil => exact h
  | cons q ps ih =>
    rw [lasting] at h
    split at h
    · exact List.mem_cons_of_mem _ (ih h)
    · rcases List.mem_cons.1 h with rfl | h
      · exact List.mem_cons_self
      · exact List.mem_cons_of_mem _ (ih h)

theorem nodup_lasting (ps : List Param) : ((lasting ps).map Param.name).Nodup := by
  induction ps with
  | nil => exact List.nodup_nil
  | cons q ps ih =>
    rw [lasting]
    split
    · exact ih
    · rename_i last
      refine List.nodup_cons.2 ⟨fun again => ?_, ih⟩
      obtain ⟨p, hp, same⟩ := List.mem_map.1 again
      exact last (List.any_eq_true.2 ⟨p, mem_of_mem_lasting hp, beq_iff_eq.2 same⟩)

/-- Of parameters one after another, those count that the later ones do not declare again. -/
theorem lasting_append (ps qs : List Param) :
    lasting (ps ++ qs) =
      (lasting ps).filter (fun p => !qs.any (·.name == p.name)) ++ lasting qs := by
  induction ps with
  | nil => rfl
  | cons p ps ih =>
    rw [List.cons_append, lasting, lasting, List.any_append, ih]
    cases here : ps.any (·.name == p.name) with
    | true => simp
    | false =>
      cases later : qs.any (·.name == p.name) with
      | true => simp [later]
      | false => simp [later]

/-- Parameters of different names all count. -/
theorem lasting_of_nodup (h : (ps.map Param.name).Nodup) : lasting ps = ps := by
  induction ps with
  | nil => rfl
  | cons p ps ih =>
    obtain ⟨fresh, distinct⟩ := List.nodup_cons.1 h
    rw [lasting, if_neg, ih distinct]
    intro again
    obtain ⟨q, hq, same⟩ := List.any_eq_true.1 again
    rw [← beq_iff_eq.1 same] at fresh
    exact fresh (List.mem_map_of_mem hq)

theorem lasting_concat (ps : List Param) (p : Param) :
    lasting (ps ++ [p]) = (lasting ps).filter (·.name ≠ p.name) ++ [p] := by
  rw [lasting_append]
  congr 1
  refine List.filter_congr fun q _ => ?_
  by_cases same : p.name = q.name
  · simp [same]
  · simp [same, Ne.symm same]

end Param

namespace Signature

open Param (lasting)

/-- The signature that clauses come to, from one that declares nothing yet. -/
def build (extra : Bool) (clauses : List Clause) : Signature :=
  clauses.foldl Clause.apply ⟨[], extra⟩

theorem params_declare {s : Signature} {ps : List Param} (h : s.params = lasting ps) (p : Param) :
    (s.declare p).params = lasting (ps ++ [p]) := by
  rw [Param.lasting_concat, ← h]
  rfl

/-- By induction on the clauses: each declaration drops the earlier one of its name. -/
theorem params_foldl {s : Signature} {ps : List Param} (h : s.params = lasting ps)
    (clauses : List Clause) : (clauses.foldl Clause.apply s).params =
      lasting (ps ++ clauses.filterMap Clause.param?) := by
  induction clauses generalizing s ps with
  | nil => simpa using h
  | cons c clauses ih =>
    cases c with
    | required name | optional name default =>
      refine (ih (params_declare h _)).trans ?_
      rw [List.append_assoc]
      rfl
    | extra allowed => exact ih h

/-- A name that is declared again counts as it was declared last, and stands there. -/
theorem params_build (extra : Bool) (clauses : List Clause) :
    (build extra clauses).params = lasting (clauses.filterMap Clause.param?) := by
  have none : (⟨[], extra⟩ : Signature).params = lasting [] := rfl
  exact params_foldl none clauses

theorem extra_foldl (s : Signature) (clauses : List Clause) :
    (clauses.foldl Clause.apply s).extra =
      (clauses.filterMap Clause.extra?).getLast?.getD s.extra := by
  induction clauses generalizing s with
  | nil => rfl
  | cons c clauses ih =>
    rw [List.foldl_cons, ih]
    cases c with
    | required | optional => rfl
    | extra allowed =>
      have said : (Clause.extra allowed :: clauses).filterMap Clause.extra? =
          allowed :: clauses.filterMap Clause.extra? := rfl
      rw [said, List.getLast?_cons, Option.getD_some]
      rfl

/-- Of the clauses about undeclared arguments, the last one counts. -/
theorem extra_build (extra : Bool) (clauses : List Clause) :
    (build extra clauses).extra = (clauses.filterMap Clause.extra?).getLast?.getD extra :=
  extra_foldl ⟨[], extra⟩ clauses

end Signature

/-! ## Manifests -/

namespace Declaration

/-- What a manifest declares of a component's arguments. -/
def clauses (d : Declaration) : List Clause :=
  d.required.map .required ++ d.optional.entries.map fun e => .optional e.1 e.2

/-- Undeclared arguments are accepted as is said or else where nothing is declared. -/
theorem signature_eq (d : Declaration) :
    d.signature = .build (d.extra?.getD (d.required.isEmpty && d.optional.isEmpty)) d.clauses := by
  rw [Signature.build, clauses, List.foldl_append, List.foldl_map, List.foldl_map, signature,
    Bool.not_or, Bool.not_not, Bool.not_not]
  rfl

/-- The required arguments that have no default, in order, and then the optional ones. -/
theorem params_signature {d : Declaration} (ordered : d.optional.Ordered) :
    d.signature.params =
      (Param.lasting (d.required.map (⟨·, none⟩))).filter (·.name ∉ d.optional.keys) ++
        d.optional.entries.map fun e => ⟨e.1, some e.2⟩ := by
  have declared : d.clauses.filterMap Clause.param? =
      d.required.map (⟨·, none⟩) ++ d.optional.entries.map fun e => ⟨e.1, some e.2⟩ := by
    simp [clauses, Function.comp_def, Clause.param?]
  rw [signature_eq, Signature.params_build, declared, Param.lasting_append]
  congr 1
  · refine List.filter_congr fun p _ => ?_
    have listed : (d.optional.entries.map fun e => (⟨e.1, some e.2⟩ : Param)).any
        (·.name == p.name) = true ↔ p.name ∈ d.optional.keys := by
      simp [Dict.keys]
    rw [decide_not, Bool.eq_iff_iff.2 (listed.trans decide_eq_true_iff.symm)]
  · refine Param.lasting_of_nodup ?_
    rw [List.map_map]
    exact ordered.nodup

theorem extra_signature (d : Declaration) :
    d.signature.extra = d.extra?.getD (d.required.isEmpty && d.optional.isEmpty) := by
  have silent : d.clauses.filterMap Clause.extra? = [] := by
    simp [clauses, Function.comp_def, Clause.extra?]
  rw [signature_eq, Signature.extra_build, silent]
  rfl

end Declaration

/-! ## Arguments and defaults -/

namespace Signature

/-- The first value that is declared for an argument that is not given. -/
def defaultOf (params : List Param) (name : String) : Option Value :=
  (params.find? (·.name == name)).bind (·.default?)

/-- The declared default of an argument. -/
def default? (s : Signature) (name : String) : Option Value := defaultOf s.params name

variable {params : List Param} {args bound : Data}

theorem defaultOf_cons_self (p : Param) (ps : List Param) :
    defaultOf (p :: ps) p.name = p.default? := by
  simp [defaultOf]

theorem defaultOf_cons_of_ne {p : Param} {name : String} (other : p.name ≠ name)
    (ps : List Param) : defaultOf (p :: ps) name = defaultOf ps name := by
  simp [defaultOf, other]

/-- By induction on the parameters: a default that is filled in counts as an argument for those that
come after it. -/
theorem get?_of_fill (h : fill params args = .ok bound) (name : String) :
    bound.get? name = (args.get? name).or (defaultOf params name) := by
  induction params generalizing args with
  | nil =>
    cases h
    exact (Option.or_none).symm
  | cons p ps ih =>
    rw [fill] at h
    split at h
    · rename_i given
      rw [ih h]
      by_cases same : p.name = name
      · subst same
        obtain ⟨v, found⟩ := Option.isSome_iff_exists.1 given
        rw [found, Option.some_or, Option.some_or]
      · rw [defaultOf_cons_of_ne same]
    · rename_i absent
      split at h
      · rename_i v declared
        rw [ih h, Dict.get?_insert]
        by_cases same : p.name = name
        · subst same
          have none : args.get? p.name = none := Option.not_isSome_iff_eq_none.1 absent
          rw [if_pos rfl, none, defaultOf_cons_self, declared, Option.some_or, Option.none_or]
        · rw [if_neg same, defaultOf_cons_of_ne same]
      · cases h

/-- What insertions of defaults keep is kept where they are filled in. -/
theorem fill_keeps {I : Data → Prop}
    (insert : ∀ p ∈ params, ∀ v, p.default? = some v → ∀ d, I d → I (d.insert p.name v))
    (h : fill params args = .ok bound) (start : I args) : I bound := by
  induction params generalizing args with
  | nil =>
    cases h
    exact start
  | cons p ps ih =>
    obtain ⟨here, there⟩ := List.forall_mem_cons.1 insert
    rw [fill] at h
    split at h
    · exact ih there h start
    · split at h
      · rename_i v declared
        exact ih there h (here v declared args start)
      · cases h

theorem ordered_of_fill (h : fill params args = .ok bound) (ordered : args.Ordered) :
    bound.Ordered :=
  fill_keeps (fun _ _ _ _ _ ordered => ordered.insert) h ordered

variable {s : Signature}

theorem fill_of_bind (h : s.bind args = .ok bound) : fill s.params args = .ok bound := by
  unfold bind at h
  split at h
  · cases h
  · exact h

/-- Under each name stands the argument, or else the default. -/
theorem get?_of_bind (h : s.bind args = .ok bound) (name : String) :
    bound.get? name = (args.get? name).or (s.default? name) :=
  get?_of_fill (fill_of_bind h) name

theorem ordered_of_bind (h : s.bind args = .ok bound) (ordered : args.Ordered) : bound.Ordered :=
  ordered_of_fill (fill_of_bind h) ordered

theorem all_of_bind {P : Value → Prop}
    (defaults : ∀ p ∈ s.params, ∀ v, p.default? = some v → P v) (h : s.bind args = .ok bound)
    (all : args.All P) : bound.All P :=
  fill_keeps (fun p hp v declared _ all => all.insert (defaults p hp v declared)) (fill_of_bind h)
    all

/-! ## Stages -/

/-- The names that are declared. -/
def names (s : Signature) : List String := s.params.map Param.name

/-- Arguments that are declared, or may be others. -/
def Admits (s : Signature) (args : Data) : Prop :=
  s.extra = true ∨ ∀ name ∈ args.keys, name ∈ s.names

theorem accepts_iff {name : String} : s.accepts name = true ↔ s.extra = true ∨ name ∈ s.names := by
  simp [accepts, names]

/-- The ways in which binding ends: with the least name that is not declared, unless others are
accepted; or else with the first required name that is missing; or else with the arguments as they
are, the defaults of those that are absent, and nothing else. -/
inductive BindEnds (s : Signature) (args : Data) : Except BindingError Data → Prop where
  | unexpected {name : String} (closed : s.extra = false) (given : name ∈ args.keys)
      (undeclared : name ∉ s.names)
      (least : ∀ other ∈ args.keys, other ∉ s.names → name = other ∨ name < other) :
      BindEnds s args (.error (.unexpected name))
  | missing {before after : List Param} {p : Param} (admitted : s.Admits args)
      (split : s.params = before ++ p :: after) (required : p.default? = none)
      (absent : p.name ∉ args.keys)
      (first : ∀ q ∈ before, q.default? = none → q.name ∈ args.keys) :
      BindEnds s args (.error (.missing p.name))
  | bound {bound : Data} (admitted : s.Admits args)
      (complete : ∀ p ∈ s.params, p.default? = none → p.name ∈ args.keys)
      (ordered : bound.Ordered)
      (given : ∀ name v, args.get? name = some v → bound.get? name = some v)
      (filled : ∀ p ∈ s.params, p.name ∉ args.keys → bound.get? p.name = p.default?)
      (other : ∀ name, name ∉ args.keys → name ∉ s.names → bound.get? name = none) :
      BindEnds s args (.ok bound)

/-- Arguments are admitted where no refused name is found among them. -/
theorem find?_eq_none_iff : args.keys.find? (!s.accepts ·) = none ↔ s.Admits args := by
  have accepted_iff (name : String) :
      ¬(!s.accepts name) = true ↔ s.extra = true ∨ name ∈ s.names := by
    rw [Bool.not_eq_true', Bool.not_eq_false, accepts_iff]
  rw [List.find?_eq_none]
  constructor
  · intro accepted
    by_cases extra : s.extra = true
    · exact .inl extra
    · exact .inr fun name mem => ((accepted_iff name).1 (accepted name mem)).resolve_left extra
  · intro admitted name mem
    exact (accepted_iff name).2 (admitted.imp_right fun all => all name mem)

/-- Among parameters of different names, each one has its own default. -/
theorem defaultOf_of_mem (distinct : (params.map Param.name).Nodup) {p : Param}
    (hp : p ∈ params) : defaultOf params p.name = p.default? := by
  induction params with
  | nil => cases hp
  | cons q ps ih =>
    obtain ⟨fresh, distinct⟩ := List.nodup_cons.1 distinct
    rcases List.mem_cons.1 hp with rfl | hp
    · exact defaultOf_cons_self p ps
    · have other : q.name ≠ p.name := fun same => fresh (same ▸ List.mem_map_of_mem hp)
      rw [defaultOf_cons_of_ne other, ih distinct hp]

theorem defaultOf_of_not_mem {name : String} (h : name ∉ params.map Param.name) :
    defaultOf params name = none := by
  induction params with
  | nil => rfl
  | cons p ps ih =>
    have other : p.name ≠ name := fun same => h (same ▸ List.mem_cons_self)
    rw [defaultOf_cons_of_ne other, ih fun again => h (List.mem_cons_of_mem _ again)]

/-- Either a required parameter is the first that is missing, or they are all there. -/
theorem fill_ends (args : Data) (distinct : (params.map Param.name).Nodup) :
    (∃ before p after, params = before ++ p :: after ∧ p.default? = none ∧ p.name ∉ args.keys ∧
      (∀ q ∈ before, q.default? = none → q.name ∈ args.keys) ∧
      fill params args = .error (.missing p.name)) ∨
    (∀ p ∈ params, p.default? = none → p.name ∈ args.keys) ∧
      ∃ bound, fill params args = .ok bound := by
  induction params generalizing args with
  | nil => exact .inr ⟨List.forall_mem_nil _, args, rfl⟩
  | cons p ps ih =>
    obtain ⟨fresh, distinct⟩ := List.nodup_cons.1 distinct
    by_cases given : args.contains p.name = true
    · have here : p.default? = none → p.name ∈ args.keys := fun _ => Dict.contains_iff.1 given
      rw [fill, if_pos given]
      rcases ih args distinct with
        ⟨before, q, after, rfl, required, absent, first, fails⟩ | ⟨complete, fills⟩
      · exact .inl ⟨p :: before, q, after, rfl, required, absent,
          List.forall_mem_cons.2 ⟨here, first⟩, fails⟩
      · exact .inr ⟨List.forall_mem_cons.2 ⟨here, complete⟩, fills⟩
    rw [fill, if_neg given]
    cases declared : p.default? with
    | none =>
      have absent : p.name ∉ args.keys := fun h => given (Dict.contains_iff.2 h)
      exact .inl ⟨[], p, ps, rfl, declared, absent, List.forall_mem_nil _, rfl⟩
    | some v =>
      -- the default that is filled in stands under none of the other names
      have same : ∀ q ∈ ps, (q.name ∈ (args.insert p.name v).keys ↔ q.name ∈ args.keys) := by
        intro q hq
        have other : q.name ≠ p.name := fun same => fresh (same ▸ List.mem_map_of_mem hq)
        rw [Dict.mem_keys_insert, or_iff_right other]
      have here : p.default? = none → p.name ∈ args.keys := by
        intro none
        cases declared.symm.trans none
      rcases ih (args.insert p.name v) distinct with
        ⟨before, q, after, rfl, required, absent, first, fails⟩ | ⟨complete, fills⟩
      · have first' : ∀ r ∈ before, r.default? = none → r.name ∈ args.keys :=
          fun r hr none => (same r (List.mem_append_left _ hr)).1 (first r hr none)
        have absent' : q.name ∉ args.keys :=
          fun h => absent ((same q (List.mem_append_right _ List.mem_cons_self)).2 h)
        exact .inl ⟨p :: before, q, after, rfl, required, absent',
          List.forall_mem_cons.2 ⟨here, first'⟩, fails⟩
      · have complete' : ∀ q ∈ ps, q.default? = none → q.name ∈ args.keys :=
          fun q hq none => (same q hq).1 (complete q hq none)
        exact .inr ⟨List.forall_mem_cons.2 ⟨here, complete'⟩, fills⟩

theorem bindEnds_bind (distinct : s.names.Nodup) (ordered : args.Ordered) :
    s.BindEnds args (s.bind args) := by
  cases found : args.keys.find? (!s.accepts ·) with
  | some name =>
    obtain ⟨given, refused, least⟩ := ordered.find?_keys found
    have refused_iff (name : String) :
        (!s.accepts name) = true ↔ s.extra = false ∧ name ∉ s.names := by
      rw [Bool.not_eq_true', ← Bool.not_eq_true, accepts_iff, not_or, Bool.not_eq_true]
    obtain ⟨closed, undeclared⟩ := (refused_iff name).1 refused
    rw [bind, found]
    exact .unexpected closed given undeclared fun other mem unknown =>
      least other mem ((refused_iff other).2 ⟨closed, unknown⟩)
  | none =>
    have admitted := find?_eq_none_iff.1 found
    have whole : s.bind args = fill s.params args := by rw [bind, found]
    rw [whole]
    rcases fill_ends args distinct with
      ⟨before, p, after, split, required, absent, first, fails⟩ | ⟨complete, bound, fills⟩
    · rw [fails]
      exact .missing admitted split required absent first
    · have value (name : String) := get?_of_fill fills name
      rw [fills]
      refine .bound admitted complete (ordered_of_fill fills ordered) ?_ ?_ ?_
      · intro name v found
        rw [value, found, Option.some_or]
      · intro p hp new
        rw [value, Dict.get?_eq_none_iff.2 new, Option.none_or, defaultOf_of_mem distinct hp]
      · intro name new undeclared
        rw [value, Dict.get?_eq_none_iff.2 new, Option.none_or, defaultOf_of_not_mem undeclared]

/-- Once bound, arguments are those that were given and all parameters. -/
theorem mem_keys_of_fill (h : fill params args = .ok bound) {name : String} :
    name ∈ bound.keys ↔ name ∈ args.keys ∨ name ∈ params.map Param.name := by
  induction params generalizing args with
  | nil =>
    cases h
    simp
  | cons p ps ih =>
    rw [fill] at h
    rw [List.map_cons, List.mem_cons]
    split at h
    · rename_i given
      rw [ih h]
      refine ⟨Or.imp_right .inr, Or.rec .inl (Or.rec (fun same => .inl ?_) .inr)⟩
      exact same ▸ Dict.contains_iff.1 given
    · split at h
      · rw [ih h, Dict.mem_keys_insert, or_assoc, or_left_comm]
      · cases h

/-- Arguments that are there already stay as they are. -/
theorem fill_of_given (given : ∀ p ∈ params, p.name ∈ args.keys) : fill params args = .ok args := by
  induction params with
  | nil => rfl
  | cons p ps ih =>
    obtain ⟨here, rest⟩ := List.forall_mem_cons.1 given
    rw [fill, if_pos (Dict.contains_iff.2 here), ih rest]

/-- Arguments that are bound once are not changed when they are bound again. -/
theorem bind_bound (h : s.bind args = .ok bound) : s.bind bound = .ok bound := by
  have admitted : s.Admits args := by
    unfold bind at h
    split at h
    · cases h
    · rename_i accepted
      exact find?_eq_none_iff.1 accepted
  have names {name : String} : name ∈ bound.keys ↔ name ∈ args.keys ∨ name ∈ s.names :=
    mem_keys_of_fill (fill_of_bind h)
  have again : s.Admits bound :=
    admitted.imp_right fun all name mem => (names.1 mem).elim (all name) id
  rw [bind, find?_eq_none_iff.2 again]
  exact fill_of_given fun p hp => names.2 (.inr (List.mem_map_of_mem hp))

/-- How filling in fails hangs on the names of the arguments. -/
theorem fill_error_iff {args' : Data} (names : ∀ name, name ∈ args'.keys ↔ name ∈ args.keys)
    (cause : BindingError) :
    fill params args' = .error cause ↔ fill params args = .error cause := by
  induction params generalizing args args' with
  | nil => simp [fill]
  | cons p ps ih =>
    have given : args'.contains p.name = args.contains p.name :=
      Bool.eq_iff_iff.2 (Dict.contains_iff.trans ((names p.name).trans Dict.contains_iff.symm))
    rw [fill, fill, given]
    split
    · exact ih names
    split
    · rename_i v _
      refine ih fun name => ?_
      rw [Dict.mem_keys_insert, Dict.mem_keys_insert, names]
    · exact Iff.rfl

theorem bind_error_iff {args' : Data} (ordered : args.Ordered) (ordered' : args'.Ordered)
    (names : ∀ name, name ∈ args'.keys ↔ name ∈ args.keys) (cause : BindingError) :
    s.bind args' = .error cause ↔ s.bind args = .error cause := by
  unfold bind
  rw [ordered'.keys_eq ordered names]
  split
  · exact Iff.rfl
  · exact fill_error_iff names cause

theorem nodup_names_build (extra : Bool) (clauses : List Clause) :
    (build extra clauses).names.Nodup := by
  rw [names, params_build]
  exact Param.nodup_lasting _

/-- A signature that is declared clause by clause has the parameters as they were declared last, and
the signature of a manifest is such a one: its required arguments that have no default, then the
optional ones by name, and others where nothing is declared. Binding ends at an undeclared argument,
at a missing one, or with the arguments and the defaults, which are not changed when they are bound
again. Whether and how it fails hangs on the names of the arguments alone. -/
theorem bind_exact (extra : Bool) (clauses : List Clause) {args : Data} (ordered : args.Ordered) :
    let s := build extra clauses
    s.params = Param.lasting (clauses.filterMap Clause.param?) ∧
    s.extra = (clauses.filterMap Clause.extra?).getLast?.getD extra ∧
    s.BindEnds args (s.bind args) ∧
    (∀ bound, s.bind args = .ok bound → s.bind bound = .ok bound) ∧
    (∀ args' : Data, args'.Ordered → (∀ name, name ∈ args'.keys ↔ name ∈ args.keys) →
      ∀ cause, s.bind args' = .error cause ↔ s.bind args = .error cause) ∧
    ∀ d : Declaration, d.optional.Ordered →
      d.signature = build (d.extra?.getD (d.required.isEmpty && d.optional.isEmpty)) d.clauses ∧
      d.signature.params =
        (Param.lasting (d.required.map (⟨·, none⟩))).filter (·.name ∉ d.optional.keys) ++
          d.optional.entries.map (fun e => ⟨e.1, some e.2⟩) ∧
      d.signature.extra = d.extra?.getD (d.required.isEmpty && d.optional.isEmpty) :=
  ⟨params_build extra clauses, extra_build extra clauses,
    bindEnds_bind (nodup_names_build extra clauses) ordered, fun _ => bind_bound,
    fun _ ordered' names => bind_error_iff ordered ordered' names,
    fun d sorted => ⟨d.signature_eq, Declaration.params_signature sorted, d.extra_signature⟩⟩

theorem bind_exact_redeclared :
    let clauses : List Clause := [.required "b", .required "a", .optional "b" (.int 7)]
    let s := build true (clauses ++ [.extra false])
    let args : Data := Dict.ofList [("a", .string "x")]
    let others : Data := Dict.ofList [("c", .null), ("d", .null)]
    let d : Declaration :=
      ⟨"card", none, none, .both, ["b", "a"], Dict.ofList [("b", .int 7)], none⟩
    args.Ordered ∧ others.Ordered ∧ d.optional.Ordered ∧
      s.params = [⟨"a", none⟩, ⟨"b", some (.int 7)⟩] ∧ d.signature = s ∧
      s.BindEnds args (.ok (Dict.ofList [("a", .string "x"), ("b", .int 7)])) ∧
      s.BindEnds others (.error (.unexpected "c")) ∧
      s.BindEnds Dict.empty (.error (.missing "a")) := by
  intro clauses s args others d
  have ordered : args.Ordered := Dict.ordered_empty.insertAll
  have ordered' : others.Ordered := Dict.ordered_empty.insertAll
  have sorted : d.optional.Ordered := Dict.ordered_empty.insertAll
  obtain ⟨params, -, given, -, -, manifest⟩ :=
    bind_exact true (clauses ++ [.extra false]) ordered
  obtain ⟨-, -, refused, -⟩ := bind_exact true (clauses ++ [.extra false]) ordered'
  obtain ⟨-, -, none, -⟩ := bind_exact true (clauses ++ [.extra false]) Dict.ordered_empty
  exact ⟨ordered, ordered', sorted, params, (manifest d sorted).1.trans rfl, given, refused, none⟩

end Signature

end SlotTemplate
