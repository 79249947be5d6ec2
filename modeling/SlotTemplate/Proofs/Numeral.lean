import SlotTemplate.Decimal.Reader

/-!
# Numerals

* `Digits.value?_eq_some_iff`, `Int64.ofInt?_eq_some_iff`, `Int64.ofInt?_eq_none_iff`: what digits
  are read as, and which integers there are;
* `Int64.ofText?_numeral`: the numeral of an integer is read as that integer;
* `Int64.numeral_form`: it consists of digits, behind a minus sign if the integer is negative.
-/

namespace SlotTemplate

theorem Digits.value?_eq_some_iff {cs : List Char} {n : Nat} :
    Digits.value? cs = some n ↔
      cs ≠ [] ∧ (∀ c ∈ cs, c.isDigit = true) ∧ Digits.value cs = n := by
  rw [Digits.value?, Option.ite_none_right_eq_some, Bool.and_eq_true, Bool.not_eq_true',
    List.isEmpty_eq_false_iff, List.all_eq_true, Option.some_inj, and_assoc]

theorem Digits.value?_toDigits (n : Nat) : Digits.value? (Nat.toDigits 10 n) = some n :=
  Digits.value?_eq_some_iff.2 ⟨Nat.toDigits_ne_nil,
    fun _ hc => Nat.isDigit_of_mem_toDigits (by decide) (by decide) hc,
    Nat.ofDigitChars_eq_foldl.symm.trans Nat.ofDigitChars_ten_toDigits⟩

namespace Int64

/-- An integer as it is written. -/
def numeral (n : Int64) : List Char := (toString n.toInt).toList

theorem numeral_eq (n : Int64) :
    numeral n = if 0 ≤ n.toInt then Nat.toDigits 10 n.toInt.toNat
      else '-' :: Nat.toDigits 10 (-n.toInt).toNat := by
  rw [numeral, Int.toString_eq_repr, Int.repr_eq_if]
  split <;> simp [Nat.toList_repr]

/-- A numeral consists of digits, behind a minus sign if the integer is negative. -/
theorem numeral_form (n : Int64) :
    ∃ ds, ds ≠ [] ∧ (∀ c ∈ ds, c.isDigit = true) ∧
      (0 ≤ n.toInt ∧ numeral n = ds ∨ n.toInt < 0 ∧ numeral n = '-' :: ds) := by
  have digits (m : Nat) : ∀ c ∈ Nat.toDigits 10 m, c.isDigit = true := fun _ hc =>
    Nat.isDigit_of_mem_toDigits (by decide) (by decide) hc
  rw [numeral_eq]
  split
  · rename_i h
    exact ⟨_, Nat.toDigits_ne_nil, digits _, .inl ⟨h, rfl⟩⟩
  · rename_i h
    exact ⟨_, Nat.toDigits_ne_nil, digits _, .inr ⟨by omega, rfl⟩⟩

theorem ofInt?_toInt (n : Int64) : ofInt? n.toInt = some n := by
  rw [ofInt?, if_pos ⟨n.minValue_le_toInt, n.toInt_le⟩, Int64.ofInt_toInt]

theorem ofInt?_eq_some_iff {n : Int} {i : Int64} : ofInt? n = some i ↔ i.toInt = n := by
  constructor
  · intro h
    obtain ⟨⟨low, high⟩, e⟩ := Option.ite_none_right_eq_some.1 h
    have min : Int64.minValue.toInt = -9223372036854775808 := by decide
    have max : Int64.maxValue.toInt = 9223372036854775807 := by decide
    rw [min] at low
    rw [max] at high
    rw [← Option.some.inj e]
    exact Int64.toInt_ofInt_of_le (by omega) (by omega)
  · rintro rfl
    exact ofInt?_toInt i

theorem ofInt?_eq_none_iff {n : Int} :
    ofInt? n = none ↔ n < Int64.minValue.toInt ∨ Int64.maxValue.toInt < n := by
  by_cases fits : Int64.minValue.toInt ≤ n ∧ n ≤ Int64.maxValue.toInt
  · rw [ofInt?, if_pos fits]
    refine ⟨fun h => ?_, fun outside => ?_⟩
    · cases h
    · omega
  · rw [ofInt?, if_neg fits]
    exact iff_of_true rfl (by omega)

/-- The numeral of an integer is read as that integer. -/
theorem ofText?_numeral (n : Int64) : ofText? (numeral n) = some n := by
  rw [numeral_eq]
  split
  · rename_i h
    have first : ∀ cs, Nat.toDigits 10 n.toInt.toNat ≠ '-' :: cs := fun cs e => by
      have := Nat.isDigit_of_mem_toDigits (b := 10) (c := '-') (n := n.toInt.toNat) (by decide)
        (by decide) (by rw [e]; exact List.mem_cons_self)
      cases this
    rw [ofText?]
    · rw [Digits.value?_toDigits, Option.bind_some, Int.toNat_of_nonneg h, ofInt?_toInt]
    · exact first
  · rename_i h
    rw [ofText?, Digits.value?_toDigits, Option.bind_some, Int.toNat_of_nonneg (by omega),
      Int.neg_neg, ofInt?_toInt]

end Int64

end SlotTemplate
