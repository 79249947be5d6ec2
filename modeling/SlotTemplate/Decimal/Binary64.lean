/-!
# Double-precision numbers

The numbers of the binary64 interchange format, kept as their sign and their code: the exponent
field and the fraction field written as one number, so that a greater code is a greater magnitude.
A number with fields `e` and `f` is `f · 2^-1074` for `e = 0` and `(2^52 + f) · 2^(e - 1075)` for
`0 < e < 2047`.
-/

namespace SlotTemplate

structure Binary64 where
  negative : Bool
  code : Fin (Nat.pow 2 63)
deriving DecidableEq, Inhabited

namespace Binary64

/-- The code of the infinities. -/
def infinityCode : Nat := 2047 * Nat.pow 2 52

theorem infinityCode_lt : infinityCode < Nat.pow 2 63 := by decide

def zero (negative : Bool) : Binary64 := ⟨negative, 0⟩

def infinity (negative : Bool) : Binary64 := ⟨negative, ⟨infinityCode, infinityCode_lt⟩⟩

/-- The quiet not-a-number. -/
def nan : Binary64 := ⟨false, ⟨infinityCode + Nat.pow 2 51, by decide⟩⟩

def isNaN (x : Binary64) : Bool := decide (infinityCode < x.code.val)

def isInfinite (x : Binary64) : Bool := decide (x.code.val = infinityCode)

def isFinite (x : Binary64) : Bool := decide (x.code.val < infinityCode)

/-- Both zeros are zero. -/
def isZero (x : Binary64) : Bool := decide (x.code.val = 0)

def neg (x : Binary64) : Binary64 := { x with negative := !x.negative }

/-- The magnitude of a finite number as `m · 2^q`. -/
def parts (x : Binary64) : Nat × Int :=
  let e : Nat := x.code.val / Nat.pow 2 52
  let f : Nat := x.code.val % Nat.pow 2 52
  if e = 0 then (f, -1074) else (Nat.pow 2 52 + f, (e : Int) - 1075)

/-- The magnitude of a finite number as a numerator and a denominator. -/
def ratio (x : Binary64) : Nat × Nat :=
  let (m, q) := x.parts
  (m * Nat.pow 2 q.toNat, Nat.pow 2 (-q).toNat)

/-- `num / den` rounded to an integer, a half to the even neighbour. -/
def roundHalfEven (num den : Nat) : Nat :=
  let q := num / den
  let r := num % den
  if 2 * r < den then q
  else if den < 2 * r then q + 1
  else if q % 2 = 0 then q else q + 1

/-- The greatest `k` with `2^k ≤ num / den`, for positive numbers. -/
def floorLog2 (num den : Nat) : Int :=
  let k : Int := (num.log2 : Int) - den.log2
  if num * Nat.pow 2 (-k).toNat < den * Nat.pow 2 k.toNat then k - 1 else k

/-- The number nearest to `num / den`, of two equally near ones the one with an even fraction; what
rounds beyond the greatest finite number is infinite. -/
def ofRatio (negative : Bool) (num den : Nat) : Binary64 :=
  if num = 0 ∨ den = 0 then zero negative
  else
    let q : Int := max (floorLog2 num den - 52) (-1074)
    let m := roundHalfEven (num * Nat.pow 2 (-q).toNat) (den * Nat.pow 2 q.toNat)
    let code := (q + 1074).toNat * Nat.pow 2 52 + m
    if h : code < infinityCode then ⟨negative, code, Nat.lt_trans h infinityCode_lt⟩
    else infinity negative

def ofNat (n : Nat) : Binary64 := ofRatio false n 1

def ofInt (n : Int) : Binary64 := ofRatio (decide (n < 0)) n.natAbs 1

/-- The number nearest to `significand · 10^exponent`. Powers that lie far outside the range of the
format are not formed. -/
def ofDecimal (negative : Bool) (significand : Nat) (exponent : Int) : Binary64 :=
  let magnitude : Int := exponent + (significand.log2 : Int) * 3 / 10
  if significand = 0 ∨ magnitude < -400 then zero negative
  else if 400 < magnitude then infinity negative
  else ofRatio negative (significand * Nat.pow 10 exponent.toNat) (Nat.pow 10 (-exponent).toNat)

/-- A finite number times a power of ten that is itself rounded first. -/
def mulPow10 (x : Binary64) (k : Nat) : Binary64 :=
  let (a, b) := x.ratio
  let (c, d) := (ofRatio false (Nat.pow 10 k) 1).ratio
  ofRatio x.negative (a * c) (b * d)

/-- A finite number divided by a power of ten that is itself rounded first. -/
def divPow10 (x : Binary64) (k : Nat) : Binary64 :=
  let (a, b) := x.ratio
  let (c, d) := (ofRatio false (Nat.pow 10 k) 1).ratio
  ofRatio x.negative (a * d) (b * c)

end Binary64

end SlotTemplate
