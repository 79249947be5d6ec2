import SlotTemplate.Decimal.Binary64

/-!
# The shortest decimal of a double-precision number

A decimal reads back as a number if it lies in the interval of the reals that round to it. Among the
decimals that do, the shortest is one of the two neighbours of the number on the coarsest decimal
grid that has a neighbour in the interval.
-/

namespace SlotTemplate.Binary64

/-- A scaled number and the ends of the interval that rounds to it, as multiples of `num / den`. -/
structure Interval where
  low : Nat
  mid : Nat
  high : Nat
  /-- Whether the ends round to the number, too. -/
  closed : Bool
  num : Nat
  den : Nat

/-- The interval of a finite positive number, in units of a quarter of its last place, divided by
`10^k`. Below a power of two the gap is half as wide. -/
def interval (x : Binary64) (k : Int) : Interval :=
  let (m, q) := x.parts
  let low := if m = Nat.pow 2 52 ∧ -1074 < q then 4 * m - 1 else 4 * m - 2
  let r := q - 2
  ⟨low, 4 * m, 4 * m + 2, m % 2 == 0,
    Nat.pow 2 r.toNat * Nat.pow 10 (-k).toNat, Nat.pow 2 (-r).toNat * Nat.pow 10 k.toNat⟩

/-- Whether an integer lies in the interval. -/
def Interval.contains (i : Interval) (d : Nat) : Bool :=
  let low := i.low * i.num
  let high := i.high * i.num
  let v := d * i.den
  (low < v && v < high) || (i.closed && (v == low || v == high))

/-- The integer nearest to the number among its two neighbours that lie in the interval; an exact
tie goes up. -/
def Interval.nearest? (i : Interval) : Option Nat :=
  let d := i.mid * i.num / i.den
  match i.contains d, i.contains (d + 1) with
  | true, true => if 2 * (i.mid * i.num - d * i.den) < i.den then some d else some (d + 1)
  | true, false => some d
  | false, true => some (d + 1)
  | false, false => none

/-- The first grid, from `10^k` on downwards, that has a neighbour in the interval. -/
def searchGrid (x : Binary64) : Nat → Int → Nat × Int
  | 0, k => (0, k)
  | n + 1, k =>
    match (x.interval k).nearest? with
    | some d => if d = 0 then searchGrid x n (k - 1) else (d, k)
    | none => searchGrid x n (k - 1)

/-- The least `k`, up to one, with `x < 10^k`, for a positive finite number. -/
def decimalExponent (x : Binary64) : Int :=
  let (num, den) := x.ratio
  let k : Int := ((num.log2 : Int) - den.log2) * 30103 / 100000
  if num * Nat.pow 10 (-(k + 1)).toNat < den * Nat.pow 10 (k + 1).toNat then k + 1 else k + 2

/-- Digits and exponent of the shortest decimal that reads back as a positive finite number. Twenty
grids are enough: seventeen digits always suffice. -/
def shortest (x : Binary64) : Nat × Int := searchGrid x 20 x.decimalExponent

/-- Leaves the zeros at the end of the digits to the exponent. -/
def stripZeros : Nat → Nat → Int → Nat × Int
  | 0, d, k => (d, k)
  | n + 1, d, k => if d ≠ 0 ∧ d % 10 = 0 then stripZeros n (d / 10) (k + 1) else (d, k)

/-- A decimal in positional notation, with neither a point nor an exponent where it is an
integer. -/
def positional (digits : Nat) (exponent : Int) : List Char :=
  let ds := (toString digits).toList
  if 0 ≤ exponent then ds ++ List.replicate exponent.toNat '0'
  else
    let places := (-exponent).toNat
    if places < ds.length then ds.take (ds.length - places) ++ '.' :: ds.drop (ds.length - places)
    else '0' :: '.' :: (List.replicate (places - ds.length) '0' ++ ds)

/-- The text of a number: the fewest digits that read back, always positional. -/
def text (x : Binary64) : String :=
  if x.isNaN then "NaN"
  else
    let magnitude :=
      if x.isInfinite then ['i', 'n', 'f']
      else if x.isZero then ['0']
      else
        let (d, k) := x.shortest
        let (d, k) := stripZeros 20 d k
        positional d k
    String.ofList (if x.negative then '-' :: magnitude else magnitude)

end SlotTemplate.Binary64
