/-!
# Results and errors

* `map_eq_ok_iff`, `mapError_eq_ok_iff`, `bind_eq_ok_iff`: where a step over a result succeeds;
* `map_eq_error_iff`, `mapError_eq_error_iff`, `bind_eq_error_iff`: where it fails, and how;
* `SameOutcome`: two results that are the same error or compare.
-/

namespace SlotTemplate

variable {ε ε' α β : Type} {x : Except ε α}

@[simp] theorem map_eq_ok_iff {f : α → β} {b : β} :
    x.map f = .ok b ↔ ∃ a, x = .ok a ∧ f a = b := by
  cases x <;> simp [Except.map]

@[simp] theorem mapError_eq_ok_iff {f : ε → ε'} {a : α} : x.mapError f = .ok a ↔ x = .ok a := by
  cases x <;> constructor <;> intro h <;> cases h <;> rfl

theorem bind_eq_ok_iff {f : α → Except ε β} {b : β} :
    x >>= f = .ok b ↔ ∃ a, x = .ok a ∧ f a = .ok b := by
  cases x <;> simp [bind, Except.bind]

@[simp] theorem map_eq_error_iff {f : α → β} {e : ε} : x.map f = .error e ↔ x = .error e := by
  cases x <;> simp [Except.map]

@[simp] theorem mapError_eq_error_iff {f : ε → ε'} {e' : ε'} :
    x.mapError f = .error e' ↔ ∃ e, x = .error e ∧ f e = e' := by
  cases x with
  | ok a =>
    constructor
    · intro h
      cases h
    · rintro ⟨_, h, -⟩
      cases h
  | error e =>
    constructor
    · intro h
      cases h
      exact ⟨e, rfl, rfl⟩
    · rintro ⟨_, h, rfl⟩
      cases h
      rfl

theorem bind_eq_error_iff {f : α → Except ε β} {e : ε} :
    x >>= f = .error e ↔ x = .error e ∨ ∃ a, x = .ok a ∧ f a = .error e := by
  cases x <;> simp [bind, Except.bind]

theorem exists_eq_ok (h : x.isOk = true) : ∃ a, x = .ok a := by
  cases x with
  | ok a => exact ⟨a, rfl⟩
  | error e => cases h

theorem isOk_iff_exists : x.isOk = true ↔ ∃ a, x = .ok a := by
  constructor
  · exact exists_eq_ok
  · rintro ⟨a, rfl⟩
    rfl

/-- Two results are the same error, or they compare. -/
inductive SameOutcome (R : α → β → Prop) : Except ε α → Except ε β → Prop where
  | ok {a : α} {b : β} (results : R a b) : SameOutcome R (.ok a) (.ok b)
  | error (e : ε) : SameOutcome R (.error e) (.error e)

namespace SameOutcome

variable {R : α → β → Prop} {y : Except ε β}

theorem refl {R : α → α → Prop} (h : ∀ a, R a a) (x : Except ε α) : SameOutcome R x x := by
  cases x with
  | ok a => exact .ok (h a)
  | error e => exact .error e

/-- What holds of the first result holds beside the comparison. -/
theorem and_left (h : SameOutcome R x y) {P : α → Prop} (hx : ∀ a, x = .ok a → P a) :
    SameOutcome (fun a b => R a b ∧ P a) x y := by
  cases h with
  | ok results => exact .ok ⟨results, hx _ rfl⟩
  | error e => exact .error e

theorem mapError (h : SameOutcome R x y) (f : ε → ε') :
    SameOutcome R (x.mapError f) (y.mapError f) := by
  cases h with
  | ok results => exact .ok results
  | error e => exact .error (f e)

end SameOutcome

instance decidableEqOk [DecidableEq α] {a : α} : Decidable (x = .ok a) :=
  match x with
  | .ok b => decidable_of_iff (b = a) ⟨congrArg Except.ok, Except.ok.inj⟩
  | .error _ => isFalse fun e => nomatch e

instance decidableEqError [DecidableEq ε] {e : ε} : Decidable (x = .error e) :=
  match x with
  | .ok _ => isFalse fun e => nomatch e
  | .error e' => decidable_of_iff (e' = e) ⟨congrArg Except.error, Except.error.inj⟩

instance decidableForallEqOk {P : α → Prop} [DecidablePred P] : Decidable (∀ a, x = .ok a → P a) :=
  match x with
  | .ok a => decidable_of_iff (P a) ⟨fun h _ e => Except.ok.inj e ▸ h, fun h => h a rfl⟩
  | .error _ => isTrue fun _ e => nomatch e

end SlotTemplate
