import SlotTemplate.Json

/-!
# Reading JSON numbers

A number that is not a 64-bit integer is read from the first digits that fit 64 bits, scaled by a
power of ten. Both are rounded before they are multiplied or divided.
-/

namespace SlotTemplate.Json.Number

/-- The written parts of a number. -/
structure Written where
  negative : Bool
  whole : List Char
  fraction : List Char
  exponent : Int
  /-- Whether there is neither a fraction nor an exponent. -/
  plain : Bool

/-- A significand of at most 64 bits and the power of ten that scales it. -/
structure Scaled where
  significand : Nat
  exponent : Int

/-- Takes one more digit, unless it does not fit. -/
def pushDigit? (n : Nat) (c : Char) : Option Nat :=
  let m := 10 * n + (c.toNat - '0'.toNat)
  if m < UInt64.size then some m else none

/-- Takes the digits before the point; once one does not fit, the others only scale. -/
def takeWhole (n : Nat) : List Char → Scaled
  | [] => ⟨n, 0⟩
  | c :: cs => match pushDigit? n c with
    | some m => takeWhole m cs
    | none => ⟨n, (cs.length + 1 : Nat)⟩

/-- Takes the digits after the point as long as they fit. -/
def takeFraction (s : Scaled) : List Char → Scaled
  | [] => s
  | c :: cs => match pushDigit? s.significand c with
    | some m => takeFraction ⟨m, s.exponent - 1⟩ cs
    | none => s

/-- The magnitude of a scaled significand, unless it lies beyond the finite numbers. -/
def Scaled.magnitude? (s : Scaled) : Option Binary64 :=
  let x := Binary64.ofNat s.significand
  if s.significand = 0 ∨ s.exponent < -616 then some (Binary64.zero false)
  else if s.exponent < -308 then
    some ((x.divPow10 308).divPow10 (-s.exponent - 308).toNat)
  else if s.exponent < 0 then some (x.divPow10 (-s.exponent).toNat)
  else if 308 < s.exponent then none
  else
    let y := x.mulPow10 s.exponent.toNat
    if y.isInfinite then none else some y

/-- A number that is not an integer of 64 bits. -/
def Written.real? (w : Written) : Option Number :=
  let s := takeFraction (takeWhole 0 w.whole) w.fraction
  let magnitude := Scaled.magnitude? ⟨s.significand, s.exponent + w.exponent⟩
  magnitude.map fun x => .real (if w.negative then x.neg else x)

/-- The number that is written; a zero with a minus sign is no integer. -/
def Written.number? (w : Written) : Option Number :=
  let n := Digits.value w.whole
  if w.plain && w.negative && decide (0 < n ∧ n ≤ Nat.pow 2 63) then some (.integer (-(n : Int)))
  else if w.plain && !w.negative && decide (n < UInt64.size) then some (.integer n)
  else w.real?

end SlotTemplate.Json.Number
